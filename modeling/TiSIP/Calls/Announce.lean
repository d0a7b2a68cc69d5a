import TiSIP.Calls.Steps

namespace TiSIP.Calls

open Pjsip Pjsua Transition

/-- CALL.INCOMING comes first and once, from a call that is neither over nor reset. -/
def AnnouncedFirst (dlg : Dialog) (events : List CallEventKind) : Prop :=
  ∃ info later, events = .incoming info :: later ∧ (∀ other, .incoming other ∉ later) ∧
    info.state ≠ .disconnected ∧ info ≠ .zero ∧ info.remoteInfo = infoBuffer dlg.remoteInfo ∧
      info.remoteContact = infoContact dlg.remoteContact ∧ info.callId = infoBuffer dlg.callId

def Leg.AnsweredQuietly (leg : Leg) : Prop := leg.answered = some .queued ∨ leg.answered = some .refused

inductive Announcing (view : LegView) : Prop
  | unanswered : view.leg.agenda = [.answer, .announce] → view.leg.answered = none → view.events = [] →
      view.owns = true → view.locked = true → view.held.dlg = some view.leg.dlg → view.held.infoState = .incoming →
      Announcing view
  | quiet : view.leg.agenda = [.announce] → view.leg.AnsweredQuietly → view.events = [] → view.owns = true →
      view.locked = true → view.held.dlg = some view.leg.dlg → view.held.infoState = .incoming → Announcing view
  | announced : .answer ∉ view.leg.agenda → .announce ∉ view.leg.agenda → view.leg.AnsweredQuietly →
      AnnouncedFirst view.leg.dlg view.events → Announcing view
  | changing (state : InvState) : view.leg.agenda = [.change (.set state), .announce] → state ≠ .calling →
      ¬ view.leg.AnsweredQuietly → view.events = [] → Announcing view
  | reporting (rest : List Task) : view.leg.agenda = .callState :: rest → .answer ∉ rest → .announce ∈ rest →
      ¬ view.leg.AnsweredQuietly → view.events = [] → Announcing view
  | overtaken (state : InvState) (later : List CallEventKind) : .answer ∉ view.leg.agenda →
      ¬ view.leg.AnsweredQuietly → view.events = .status state :: later → Announcing view

def Announces (view : LegView) : Prop := view.leg.announces = true → Announcing view

section Moves

variable {id : Nat} {label : CallLabel} {view after : LegView}

theorem announcing_unanswered (agenda : view.leg.agenda = [.answer, .announce]) (events : view.events = [])
    (owns : view.owns = true) (locked : view.locked = true) (dlg : view.held.dlg = some view.leg.dlg)
    (state : view.held.infoState = .incoming) (moved : LegMove id label view after) : Announcing after := by
  cases moved with
  | setUp _ _ idle | mediaReady idle | session _ idle | unlock idle =>
    rw [agenda] at idle
    cases idle
  | change _ next | reset next =>
    rw [agenda] at next
    cases next
  | fire next _ fired =>
    rw [agenda] at next
    cases next
    cases fired
  | @answer _ outcome session rest held next =>
    rw [agenda] at next
    obtain rfl : [Task.announce] = rest := (List.cons.inj next).2
    cases outcome with
    | queued => exact .quiet rfl (.inl rfl) events owns locked dlg state
    | refused => exact .quiet rfl (.inr rfl) events owns locked dlg state
    | sent => exact .changing .early rfl nofun (by rintro (quiet | quiet) <;> cases quiet) events
    | failed => exact .changing .disconnected rfl nofun (by rintro (quiet | quiet) <;> cases quiet) events

theorem announcing_quiet (agenda : view.leg.agenda = [.announce]) (quiet : view.leg.AnsweredQuietly)
    (events : view.events = []) (dlg : view.held.dlg = some view.leg.dlg) (state : view.held.infoState = .incoming)
    (moved : LegMove id label view after) : Announcing after := by
  cases moved with
  | setUp _ _ idle | mediaReady idle | session _ idle | unlock idle =>
    rw [agenda] at idle
    cases idle
  | change _ next | reset next | answer _ next =>
    rw [agenda] at next
    cases next
  | @fire _ info task rest kind next tells fired =>
    rw [agenda] at next
    obtain ⟨rfl, rfl⟩ := List.cons.inj next
    cases fired
    obtain ⟨told, remoteInfo, remoteContact, callId⟩ := tells _ dlg
    rw [state] at told
    have alive : info ≠ .zero := by
      intro zero
      rw [zero] at told
      cases told
    have up : info.state ≠ .disconnected := by
      rw [told]
      exact nofun
    have added : view.events ++ [.incoming info] = [.incoming info] := by
      rw [events]
      rfl
    have once : ∀ other, CallEventKind.incoming other ∉ [] := fun _ => List.not_mem_nil
    have first : AnnouncedFirst view.leg.dlg (view.events ++ [.incoming info]) :=
      ⟨info, [], added, once, up, alive, remoteInfo, remoteContact, callId⟩
    exact .announced List.not_mem_nil List.not_mem_nil quiet first

theorem unplanned_move {task : Task} (only : task = .answer ∨ task = .announce) (absent : task ∉ view.leg.agenda)
    (moved : LegMove id label view after) : task ∉ after.leg.agenda := by
  have noChange : ∀ changes : List Change, task ∉ changes.map Task.change := by
    intro changes member
    obtain ⟨change, _, same⟩ := List.mem_map.mp member
    rcases only with rfl | rfl <;> cases same
  have noCallState : task ≠ .callState := by rcases only with rfl | rfl <;> exact nofun
  have noReset : task ≠ .reset := by rcases only with rfl | rfl <;> exact nofun
  cases moved with
  | mediaReady _ | unlock _ => exact absent
  | session _ _ _ _ => exact noChange _
  | reset next | fire next _ _ =>
    rw [next] at absent
    exact fun member => absent (List.mem_cons_of_mem _ member)
  | answer _ next =>
    rw [next] at absent
    intro member
    rcases List.mem_append.mp member with changed | kept
    · exact noChange _ changed
    · exact absent (List.mem_cons_of_mem _ kept)
  | setUp exit _ _ _ =>
    dsimp only
    unfold setUpLeg
    split
    · exact absent
    · split <;> simp [noCallState, noReset]
  | @change _ _ session rest _ next =>
    rw [next] at absent
    have rest : task ∉ rest := fun member => absent (List.mem_cons_of_mem _ member)
    dsimp only
    unfold changedLeg
    dsimp only
    split
    · split <;> simp [noCallState, noReset, rest]
    · exact rest

theorem LegMove.keeps (moved : LegMove id label view after) (given : .answer ∉ view.leg.agenda) :
    SameCall view.leg after.leg ∧ (after.events = view.events ∨ (∃ state, after.events = view.events ++ [.status state]) ∨
      .announce ∈ view.leg.agenda ∧ ∃ info, after.events = view.events ++ [.incoming info]) := by
  cases moved with
  | mediaReady _ | unlock _ | session _ _ _ _ | reset _ => exact ⟨⟨rfl, rfl, rfl, rfl, rfl⟩, .inl rfl⟩
  | setUp exit _ _ _ => exact ⟨setUpLeg_same _ _, .inl rfl⟩
  | change _ _ => exact ⟨changedLeg_same _ _ _ _, .inl rfl⟩
  | answer _ next =>
    rw [next] at given
    exact absurd (List.mem_cons_self ..) given
  | @fire _ info task rest kind next tells fired =>
    refine ⟨⟨rfl, rfl, rfl, rfl, rfl⟩, .inr ?_⟩
    cases task with
    | callState =>
      cases fired
      exact .inl ⟨_, rfl⟩
    | announce =>
      cases fired
      refine .inr ⟨?_, _, rfl⟩
      rw [next]
      exact List.mem_cons_self ..
    | change _ | answer | reset => cases fired

theorem AnnouncedFirst.status {dlg : Dialog} {events : List CallEventKind} {state : InvState}
    (first : AnnouncedFirst dlg events) : AnnouncedFirst dlg (events ++ [.status state]) := by
  obtain ⟨info, later, rfl, once, live⟩ := first
  refine ⟨info, later ++ [.status state], rfl, ?_, live⟩
  intro other member
  rcases List.mem_append.mp member with old | new
  · exact once other old
  · cases List.mem_singleton.mp new

theorem announcing_announced (given : .answer ∉ view.leg.agenda) (done : .announce ∉ view.leg.agenda)
    (quiet : view.leg.AnsweredQuietly) (first : AnnouncedFirst view.leg.dlg view.events)
    (moved : LegMove id label view after) : Announcing after := by
  obtain ⟨same, events⟩ := moved.keeps given
  have later : AnnouncedFirst after.leg.dlg after.events := by
    rw [same.dlg]
    rcases events with kept | ⟨state, added⟩ | ⟨due, _⟩
    · rw [kept]
      exact first
    · rw [added]
      exact first.status
    · exact absurd due done
  refine .announced (unplanned_move (.inl rfl) given moved) (unplanned_move (.inr rfl) done moved) ?_ later
  unfold Leg.AnsweredQuietly
  rw [same.answered]
  exact quiet

theorem announcing_changing {state : InvState} (agenda : view.leg.agenda = [.change (.set state), .announce])
    (reported : state ≠ .calling) (loud : ¬ view.leg.AnsweredQuietly) (events : view.events = [])
    (moved : LegMove id label view after) : Announcing after := by
  cases moved with
  | setUp _ _ idle | mediaReady idle | session _ idle | unlock idle =>
    rw [agenda] at idle
    cases idle
  | reset next | answer _ next =>
    rw [agenda] at next
    cases next
  | fire next _ fired =>
    rw [agenda] at next
    cases next
    cases fired
  | @change _ _ session rest held next =>
    rw [agenda] at next
    cases next
    have reports : session.reports (.set state) = true := by
      show (!(state == .calling && session.callingReported)) = true
      rw [beq_eq_false_iff_ne.mpr reported]
      rfl
    have changed : changedLeg view.leg session (.set state) [.announce] =
        { view.leg with
          session := some (session.apply (.set state))
          agenda := .callState :: (if (session.apply (.set state)).state = .disconnected then [.reset] else []) ++ [.announce]
          reported := view.leg.reported ++ [(session.apply (.set state)).state] } := by
      unfold changedLeg
      dsimp only
      rw [if_pos reports]
    rw [changed]
    refine .reporting _ rfl ?_ ?_ loud events
    · split <;> simp
    · simp

theorem announcing_reporting {rest : List Task} (agenda : view.leg.agenda = .callState :: rest)
    (given : .answer ∉ rest) (loud : ¬ view.leg.AnsweredQuietly) (events : view.events = [])
    (moved : LegMove id label view after) : Announcing after := by
  cases moved with
  | setUp _ _ idle | mediaReady idle | session _ idle | unlock idle =>
    rw [agenda] at idle
    cases idle
  | change _ next | reset next | answer _ next =>
    rw [agenda] at next
    cases next
  | @fire _ info _ _ _ next _ fired =>
    rw [agenda] at next
    cases next
    cases fired
    refine .overtaken info.state [] given loud ?_
    rw [events]
    rfl

theorem announcing_overtaken {state : InvState} {later : List CallEventKind} (given : .answer ∉ view.leg.agenda)
    (loud : ¬ view.leg.AnsweredQuietly) (events : view.events = .status state :: later)
    (moved : LegMove id label view after) : Announcing after := by
  obtain ⟨same, added⟩ := moved.keeps given
  have stays : ¬ after.leg.AnsweredQuietly := by
    unfold Leg.AnsweredQuietly
    rw [same.answered]
    exact loud
  have begins : ∃ later, after.events = .status state :: later := by
    rcases added with kept | ⟨other, added⟩ | ⟨_, info, added⟩
    · exact ⟨later, kept.trans events⟩
    · rw [added, events]
      exact ⟨_, rfl⟩
    · rw [added, events]
      exact ⟨_, rfl⟩
  obtain ⟨later, begins⟩ := begins
  exact .overtaken state later (unplanned_move (.inl rfl) given moved) stays begins

theorem Announcing.move (announcing : Announcing view) (moved : LegMove id label view after) : Announcing after := by
  cases announcing with
  | unanswered agenda _ events owns locked dlg state =>
    exact announcing_unanswered agenda events owns locked dlg state moved
  | quiet agenda quiet events _ _ dlg state => exact announcing_quiet agenda quiet events dlg state moved
  | announced given done quiet first => exact announcing_announced given done quiet first moved
  | changing state agenda reported loud events => exact announcing_changing agenda reported loud events moved
  | reporting rest agenda given _ loud events => exact announcing_reporting agenda given loud events moved
  | overtaken state later given loud events => exact announcing_overtaken given loud events moved

theorem Announcing.frame {system : CallSystem} (announcing : Announcing view) (frame : LegFrame system id view after) :
    Announcing after := by
  have kept : view.owns = true → view.locked = true → after.owns = true ∧ after.held = view.held := by
    intro owns locked
    rcases frame.lost owns with still | ⟨free, _⟩
    · exact ⟨still, (frame.kept still).2⟩
    · rw [locked] at free
      cases free
  cases announcing with
  | unanswered agenda answered events owns locked dlg state =>
    obtain ⟨still, held⟩ := kept owns locked
    rw [← held] at dlg state
    rw [← frame.leg] at agenda answered dlg
    exact .unanswered agenda answered (frame.events.trans events) still (frame.locked.trans locked) dlg state
  | quiet agenda quiet events owns locked dlg state =>
    obtain ⟨still, held⟩ := kept owns locked
    rw [← held] at dlg state
    rw [← frame.leg] at agenda quiet dlg
    exact .quiet agenda quiet (frame.events.trans events) still (frame.locked.trans locked) dlg state
  | announced given done quiet first =>
    rw [← frame.leg] at given done quiet first
    rw [← frame.events] at first
    exact .announced given done quiet first
  | changing state agenda reported loud events =>
    rw [← frame.leg] at agenda loud
    exact .changing state agenda reported loud (frame.events.trans events)
  | reporting rest agenda given due loud events =>
    rw [← frame.leg] at agenda loud
    exact .reporting rest agenda given due loud (frame.events.trans events)
  | overtaken state later given loud events =>
    rw [← frame.leg] at given loud
    exact .overtaken state later given loud (frame.events.trans events)

end Moves

theorem LegMove.announces {id : Nat} {label : CallLabel} {view after : LegView} (moved : LegMove id label view after) :
    after.leg.announces = view.leg.announces := by
  cases moved with
  | setUp exit _ _ _ => exact (setUpLeg_same _ _).announces
  | change _ _ => exact (changedLeg_same _ _ _ _).announces
  | mediaReady _ | unlock _ | session _ _ _ _ | answer _ _ | reset _ | fire _ _ _ => rfl

theorem LegFresh.announces {before : CallSystem} {id : Nat} {view : LegView} (fresh : LegFresh before id view) :
    Announces view := by
  obtain ⟨leg, owns, locked, held, events⟩ := view
  obtain ⟨_, started, owned, taken, filled, silent⟩ := fresh
  dsimp only at started owned taken filled silent
  intro announced
  rcases started with ⟨slot, accId, dlg, rfl⟩ | ⟨slot, accId, dlg, mediaPending, replaces, rfl⟩
  · cases announced
  · cases replaces with
    | true => cases announced
    | false =>
      have dlg : held.dlg = some dlg := by
        rw [filled]
        rfl
      have state : held.infoState = .incoming := by
        rw [filled]
        rfl
      exact .unanswered rfl rfl silent owned taken dlg state

theorem run_announces {labels : List CallLabel} {system : CallSystem} (run : Execution CallStep startCalls labels system) :
    AllLegs Announces system := by
  refine run.invariant ?_ startCalls_allLegs
  intro before label after all stepped
  apply all.step stepped (fun _ _ fresh => fresh.announces)
  · intro id leg view _ sound moved announced
    rw [moved.announces] at announced
    exact (sound announced).move moved
  · intro id leg view _ sound framed announced
    rw [framed.leg] at announced
    exact (sound announced).frame framed

/-- Once `onIncomingCall` is done, the call was announced first and alive exactly when the
    automatic 180 caused no callback. -/
theorem announced_first_iff {labels : List CallLabel} {system : CallSystem} {id : Nat} {leg : Leg}
    (run : Execution CallStep startCalls labels system) (held : system.legs id = some leg)
    (announces : leg.announces = true) (done : .announce ∉ leg.agenda) :
    AnnouncedFirst leg.dlg (eventsOf system.log id) ↔ leg.AnsweredQuietly := by
  have announcing : Announcing (system.view id leg) := (run_announces run).sound id leg held announces
  cases announcing with
  | unanswered agenda _ _ _ _ _ _ =>
    have agenda : leg.agenda = [.answer, .announce] := agenda
    rw [agenda] at done
    exact absurd (by simp) done
  | quiet agenda _ _ _ _ _ _ =>
    have agenda : leg.agenda = [.announce] := agenda
    rw [agenda] at done
    exact absurd (by simp) done
  | announced _ _ quiet first => exact iff_of_true first quiet
  | changing state agenda _ _ _ =>
    have agenda : leg.agenda = [.change (.set state), .announce] := agenda
    rw [agenda] at done
    exact absurd (by simp) done
  | reporting rest agenda _ due _ _ =>
    have agenda : leg.agenda = .callState :: rest := agenda
    rw [agenda] at done
    exact absurd (List.mem_cons_of_mem _ due) done
  | overtaken state later _ loud events =>
    refine iff_of_false ?_ loud
    have events : eventsOf system.log id = .status state :: later := events
    rw [events]
    rintro ⟨info, _, same, _⟩
    cases same

def queuedAnswer : List CallLabel :=
  [.incoming 0 0 0 sampleDialog true false, .answer 0 .queued, .enter 0, .fire 0]

theorem queued_answer_announced :
    ∃ system leg, Execution CallStep startCalls queuedAnswer system ∧ system.legs 0 = some leg ∧
      AnnouncedFirst leg.dlg (eventsOf system.log 0) := by
  have ran : (queuedAnswer.foldlM callStep startCalls).any fun system =>
      (system.legs 0).any fun leg =>
        leg.announces = true ∧ .announce ∉ leg.agenda ∧ leg.answered = some .queued := by decide
  obtain ⟨system, ended, met⟩ := (Option.any_eq_true _ _).mp ran
  obtain ⟨leg, held, met⟩ := (Option.any_eq_true _ _).mp met
  obtain ⟨announces, done, queued⟩ := of_decide_eq_true met
  have run := Execution.of_foldlM callStep queuedAnswer ended
  exact ⟨system, leg, run, held, (announced_first_iff run held announces done).mpr (.inl queued)⟩

def sentAnswer : List CallLabel :=
  [.incoming 0 0 0 sampleDialog false false, .answer 0 .sent, .perform 0, .enter 0, .fire 0, .enter 0, .fire 0]

theorem sent_answer_overtakes :
    ∃ system leg, Execution CallStep startCalls sentAnswer system ∧ system.legs 0 = some leg ∧ leg.announces = true ∧
      .announce ∉ leg.agenda ∧ ¬ AnnouncedFirst leg.dlg (eventsOf system.log 0) := by
  have ran : (sentAnswer.foldlM callStep startCalls).any fun system =>
      (eventsOf system.log 0).head? = some (.status .early) ∧
        (system.legs 0).any fun leg => leg.announces = true ∧ .announce ∉ leg.agenda := by decide
  obtain ⟨system, ended, met⟩ := (Option.any_eq_true _ _).mp ran
  obtain ⟨first, met⟩ := of_decide_eq_true met
  obtain ⟨leg, held, met⟩ := (Option.any_eq_true _ _).mp met
  obtain ⟨announces, done⟩ := of_decide_eq_true met
  have run := Execution.of_foldlM callStep sentAnswer ended
  refine ⟨system, leg, run, held, announces, done, ?_⟩
  intro announced
  obtain ⟨info, later, events, _⟩ := announced
  rw [events] at first
  cases first

end TiSIP.Calls
