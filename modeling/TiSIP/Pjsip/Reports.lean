import TiSIP.Lib.LifeLine
import TiSIP.Pjsip.Forward

namespace TiSIP.Pjsip

open LifeLine
open Pjsua (InvState)

/-- The states a session reported never go back, and stay below the state it is in; a client
    that starts again may be below what it reported, but not below EARLY. -/
structure Reported (session : Session) (reported : List InvState) : Prop where
  ascends : Ascends progress .disconnected reported
  named : .null ∉ reported
  below : ∀ state, state ∈ reported →
    progress state ≤ progress session.state ∨ session.role = .uac ∧ progress state ≤ 2
  begun : session.role = .uac →
    session.callingReported = true ∨ session.state = .disconnected ∨ session.state = .null ∧ reported = []
  lasting : session.state ≠ .disconnected → .disconnected ∉ reported
  ended : session.state = .disconnected → reported.getLast? = some .disconnected

theorem reported_nil {session : Session} (up : session.state ≠ .disconnected)
    (unsent : session.role = .uac → session.state = .null) : Reported session [] where
  ascends := ascends_nil
  named := nofun
  below := nofun
  begun := fun uac => .inr (.inr ⟨unsent uac, rfl⟩)
  lasting := fun _ => nofun
  ended := fun down => absurd down up

section Changes

variable {session : Session} {reported : List InvState} {next : InvState} {change : Change}

theorem Moves.reached {role : Role} {state : InvState} (moves : Moves role state next) : next ≠ .null := by
  obtain ⟨_, forward, first, _⟩ := moves
  intro back
  rw [back] at forward first
  have start : state = .null := by
    cases state <;> first | rfl | cases forward
  rcases first start with impossible | impossible <;> cases impossible

theorem Session.fits_apply (forward : Forward session.role session.state [change]) : (session.apply change).Fits := by
  cases change with
  | restart => exact ⟨fun _ => forward.1.1, nofun⟩
  | set next =>
    obtain ⟨moves, _⟩ := forward
    have reached := moves.reached
    obtain ⟨_, _, _, server, client⟩ := moves
    refine ⟨?_, ?_⟩
    · intro early
      rcases early with null | calling
      · exact absurd null reached
      · cases held : session.role with
        | uac => exact held
        | uas => exact absurd calling (server held)
    · intro incoming
      cases held : session.role with
      | uac => exact absurd incoming (client held)
      | uas => exact held

theorem Session.fits_over (down : session.state = .disconnected) : session.Fits := by
  unfold Session.Fits
  rw [down]
  refine ⟨?_, nofun⟩
  intro early
  rcases early with impossible | impossible <;> cases impossible

def Session.reportsAfter (session : Session) (change : Change) (reported : List InvState) : List InvState :=
  if session.reports change then reported ++ [(session.apply change).state] else reported

theorem Reported.above (sound : Reported session reported) (moves : Moves session.role session.state next)
    (reports : session.reports (.set next) = true) {state : InvState} (member : state ∈ reported) :
    progress state ≤ progress next ∧ state ≠ .disconnected := by
  obtain ⟨up, forward, _, _, client⟩ := moves
  refine ⟨?_, ?_⟩
  · rcases sound.below state member with low | ⟨uac, low⟩
    · exact low.trans forward
    · cases next with
      | early | connecting | confirmed | disconnected => exact low.trans (by decide)
      | null => exact absurd rfl (Moves.reached ⟨up, forward, ‹_›, ‹_›, client⟩)
      | incoming => exact absurd rfl (client uac)
      | calling =>
        have silent : session.callingReported = false := by
          cases held : session.callingReported with
          | false => rfl
          | true =>
            unfold Session.reports at reports
            rw [held] at reports
            cases reports
        rcases sound.begun uac with called | down | ⟨_, none⟩
        · rw [silent] at called
          cases called
        · exact absurd down up
        · rw [none] at member
          cases member
  · intro down
    rw [down] at member
    exact sound.lasting up member

theorem Reported.set (sound : Reported session reported) (moves : Moves session.role session.state next)
    (reports : session.reports (.set next) = true) :
    Reported (session.apply (.set next)) (reported ++ [next]) where
  ascends := sound.ascends.append fun state member => sound.above moves reports member
  named := by
    intro member
    rcases List.mem_append.mp member with old | new
    · exact sound.named old
    · exact moves.reached (List.mem_singleton.mp new).symm
  below := by
    intro state member
    rcases List.mem_append.mp member with old | new
    · exact .inl (sound.above moves reports old).1
    · rw [List.mem_singleton.mp new]
      exact .inl le_rfl
  begun := by
    intro uac
    show (session.callingReported || next == .calling) = true ∨ next = .disconnected ∨ next = .null ∧ _
    rcases sound.begun uac with called | down | ⟨start, _⟩
    · rw [called]
      exact .inl rfl
    · exact absurd down moves.1
    · rcases moves.2.2.1 start with calling | down
      · rw [calling]
        exact .inl (Bool.or_true _)
      · exact .inr (.inl down)
  lasting := by
    intro up member
    rcases List.mem_append.mp member with old | new
    · exact sound.lasting moves.1 old
    · exact up (List.mem_singleton.mp new).symm
  ended := by
    intro down
    have down : next = .disconnected := down
    rw [List.getLast?_concat, down]

theorem Reported.again (sound : Reported session reported) (moves : Moves session.role session.state next)
    (silent : session.reports (.set next) = false) : Reported (session.apply (.set next)) reported := by
  have quiet : (next == .calling && session.callingReported) = true := by
    unfold Session.reports at silent
    exact Bool.not_eq_eq_eq_not.mp silent
  obtain ⟨calling, called⟩ := Bool.and_eq_true_iff.mp quiet
  have calling : next = .calling := eq_of_beq calling
  have client : session.role = .uac := by
    cases held : session.role with
    | uac => rfl
    | uas => exact absurd calling (moves.2.2.2.1 held)
  refine ⟨sound.ascends, sound.named, ?_, ?_, fun _ => sound.lasting moves.1, ?_⟩
  · intro state member
    rcases sound.below state member with low | low
    · exact .inl (low.trans moves.2.1)
    · exact .inr low
  · intro _
    apply Or.inl
    show (session.callingReported || next == .calling) = true
    rw [called]
    rfl
  · intro down
    have down : next = .disconnected := down
    rw [calling] at down
    cases down

theorem Reported.restart (sound : Reported session reported)
    (early : session.role = .uac ∧ progress session.state ≤ 2) : Reported (session.apply .restart) reported := by
  have up : session.state ≠ .disconnected := by
    intro down
    rw [down] at early
    exact absurd early.2 (by decide)
  refine ⟨sound.ascends, sound.named, ?_, ?_, fun _ => sound.lasting up, nofun⟩
  · intro state member
    rcases sound.below state member with low | low
    · exact .inr ⟨early.1, low.trans early.2⟩
    · exact .inr low
  · intro uac
    rcases sound.begun uac with called | down | ⟨_, none⟩
    · exact .inl called
    · exact absurd down up
    · exact .inr (.inr ⟨rfl, none⟩)

theorem Reported.apply (sound : Reported session reported) (forward : Forward session.role session.state [change]) :
    Reported (session.apply change) (session.reportsAfter change reported) := by
  unfold Session.reportsAfter
  cases change with
  | restart =>
    exact sound.restart forward.1
  | set next =>
    by_cases reports : session.reports (.set next) = true
    · rw [if_pos reports]
      exact sound.set forward.1 reports
    · rw [if_neg reports]
      exact sound.again forward.1 (Bool.eq_false_iff.mpr reports)

end Changes

end TiSIP.Pjsip
