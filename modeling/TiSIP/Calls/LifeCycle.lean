import TiSIP.Calls.Steps
import TiSIP.Pjsip.Reports

namespace TiSIP.Calls

open Pjsip Pjsua Transition LifeLine

def statuses : List CallEventKind → List InvState
  | [] => []
  | .status state :: rest => state :: statuses rest
  | .incoming _ :: rest => statuses rest

theorem statuses_append (first second : List CallEventKind) :
    statuses (first ++ second) = statuses first ++ statuses second := by
  induction first with
  | nil => rfl
  | cons kind rest ih =>
    cases kind with
    | status state => exact congrArg (state :: ·) ih
    | incoming _ => exact ih

def Leg.state (leg : Leg) : InvState :=
  match leg.session with
  | some session => session.state
  | none => .disconnected

def Leg.awaiting (leg : Leg) : List InvState :=
  match leg.agenda with
  | .callState :: _ => [leg.state]
  | _ => []

def Leaves (agenda : List Task) : Prop := agenda = [] ∨ agenda = [.announce]

/-- Tasks that take a session from a state forward, to its reset or to an end that waits for
    the next event. -/
def Planned (role : Role) : InvState → List Task → Prop
  | state, [] => state ≠ .disconnected
  | state, .change (.set next) :: rest =>
    Moves role state next ∧ (next = .disconnected → Leaves rest) ∧ (next ≠ .disconnected → Planned role next rest)
  | state, .change .restart :: rest => (role = .uac ∧ progress state ≤ 2) ∧ Planned role .null rest
  | state, .callState :: rest => Planned role state rest
  | state, .answer :: rest => role = .uas ∧ state = .incoming ∧ rest = [.announce]
  | state, .announce :: rest => state ≠ .disconnected ∧ rest = []
  | state, .reset :: rest => state = .disconnected ∧ Leaves rest

inductive Stage (leg : Leg) (owns : Bool) : Prop
  | waiting : leg.session = none → owns = true → leg.agenda = [] → leg.reported = [] → Stage leg owns
  | failing : leg.session = none → owns = true → leg.agenda = [.callState, .reset] →
      leg.reported = [.disconnected] → Stage leg owns
  | failed : leg.session = none → owns = true → leg.agenda = [.reset] →
      leg.reported = [] ∨ leg.reported = [.disconnected] → Stage leg owns
  | abandoned : leg.session = none → owns = false → leg.agenda = [] →
      leg.reported = [] ∨ leg.reported = [.disconnected] → Stage leg owns
  | going (session : Session) : leg.session = some session → owns = true → session.Fits →
      Reported session leg.reported → Planned session.role session.state leg.agenda → Stage leg owns
  | gone (session : Session) : leg.session = some session → owns = false → session.state = .disconnected →
      Reported session leg.reported → Leaves leg.agenda → Stage leg owns

structure LegSound (view : LegView) : Prop where
  stage : Stage view.leg view.owns
  shown : view.owns = true → ∃ code, view.held = callSession view.leg code view.leg.session ∧
    (view.leg.session = none → .callState ∈ view.leg.agenda → code ≠ 0)
  single : .callState ∉ view.leg.agenda.tail
  followed : statuses view.events ++ view.leg.awaiting = view.leg.reported

section Plans

variable {role : Role} {state : InvState} {changes : List Change} {rest : List Task} {leg : Leg}

theorem Leaves.no_task {task : Task} (leaves : Leaves (task :: rest)) : task = .announce ∧ rest = [] := by
  rcases leaves with none | one
  · cases none
  · exact List.cons.inj one

theorem planned_changes (forward : Forward role state changes) (up : state ≠ .disconnected) :
    Planned role state (changes.map Task.change) := by
  induction changes generalizing state with
  | nil => exact up
  | cons change changes ih =>
    cases change with
    | set next =>
      refine ⟨forward.1, ?_, ih forward.2⟩
      intro down
      have ended := forward.2
      rw [down] at ended
      cases changes with
      | nil => exact .inl rfl
      | cons change _ =>
        cases change with
        | set _ => exact absurd rfl ended.1.1
        | restart => exact absurd ended.1.2 (by decide)
    | restart => exact ⟨forward.1, ih forward.2 nofun⟩

theorem forward_over (forward : Forward role .disconnected changes) : changes = [] := by
  cases changes with
  | nil => rfl
  | cons change _ =>
    cases change with
    | set _ => exact absurd rfl forward.1.1
    | restart => exact absurd forward.1.2 (by decide)

theorem Planned.change {session : Session} {change : Change}
    (planned : Planned session.role session.state (.change change :: rest)) :
    Forward session.role session.state [change] := by
  cases change with
  | set next => exact ⟨planned.1, trivial⟩
  | restart => exact ⟨planned.1, trivial⟩

theorem noCallState_changes : .callState ∉ changes.map Task.change := by
  intro member
  obtain ⟨_, _, impossible⟩ := List.mem_map.mp member
  cases impossible

theorem awaiting_callState {leg : Leg} (agenda : leg.agenda = .callState :: rest) : leg.awaiting = [leg.state] := by
  unfold Leg.awaiting
  rw [agenda]

theorem awaiting_none {leg : Leg} (none : .callState ∉ leg.agenda) : leg.awaiting = [] := by
  unfold Leg.awaiting
  split
  · rename_i rest agenda
    rw [agenda] at none
    exact absurd (List.mem_cons_self ..) none
  · rfl

end Plans

section Moves

variable {id : Nat} {view : LegView}

theorem LegSound.idle (sound : LegSound view) (idle : .callState ∉ view.leg.agenda) :
    statuses view.events = view.leg.reported := by
  have followed := sound.followed
  rw [awaiting_none idle, List.append_nil] at followed
  exact followed

theorem LegSound.quiet {task : Task} {rest : List Task} (sound : LegSound view) (next : view.leg.agenda = task :: rest)
    (other : task ≠ .callState) : statuses view.events = view.leg.reported ∧ .callState ∉ rest := by
  have single := sound.single
  rw [next] at single
  refine ⟨sound.idle ?_, single⟩
  rw [next]
  intro member
  rcases List.mem_cons.mp member with same | later
  · exact other same.symm
  · exact single later

theorem LegSound.going {session : Session} {task : Task} {rest : List Task} (sound : LegSound view)
    (held : view.leg.session = some session) (next : view.leg.agenda = task :: rest) (busy : task ≠ .announce) :
    view.owns = true ∧ session.Fits ∧ Reported session view.leg.reported ∧
      Planned session.role session.state (task :: rest) := by
  cases sound.stage with
  | waiting absent _ _ _ | failing absent _ _ _ | failed absent _ _ _ | abandoned absent _ _ _ =>
    rw [held] at absent
    cases absent
  | going other same owns fits reported planned =>
    obtain rfl : session = other := Option.some.inj (held.symm.trans same)
    rw [next] at planned
    exact ⟨owns, fits, reported, planned⟩
  | gone other _ _ _ _ leaves =>
    rw [next] at leaves
    exact absurd leaves.no_task.1 busy

theorem legSound_setUp {exit : SetUpExit} (sound : LegSound view) (absent : view.leg.session = none)
    (idle : view.leg.agenda = []) (owns : view.owns = true) (coded : exit.callsBack = true → exit.lastCode ≠ 0) :
    LegSound { view with
      leg := setUpLeg view.leg exit
      locked := true
      held := callSession view.leg exit.lastCode (setUpLeg view.leg exit).session } := by
  have reported : view.leg.reported = [] := by
    cases sound.stage with
    | waiting _ _ _ reported => exact reported
    | failing _ _ agenda _ | failed _ _ agenda _ =>
      rw [idle] at agenda
      cases agenda
    | abandoned _ lost _ _ =>
      rw [owns] at lost
      cases lost
    | going session held _ _ _ _ | gone session held _ _ _ _ =>
      rw [absent] at held
      cases held
  have silent : statuses view.events = [] := by
    have none : .callState ∉ view.leg.agenda := by
      rw [idle]
      exact List.not_mem_nil
    exact (sound.idle none).trans reported
  have followed : ∀ later, statuses view.events ++ later = later := by
    intro later
    rw [silent]
    rfl
  cases exit with
  | invited =>
    have up : ({ role := .uac, state := .null, callingReported := false } : Session).state ≠ .disconnected := nofun
    refine ⟨.going _ rfl owns ⟨fun _ => rfl, nofun⟩ ?_ ?_, fun _ => ⟨0, rfl, nofun⟩, ?_, ?_⟩
    · show Reported _ view.leg.reported
      rw [reported]
      exact reported_nil up fun _ => rfl
    · show Planned _ _ view.leg.agenda
      rw [idle]
      exact up
    · show .callState ∉ view.leg.agenda.tail
      rw [idle]
      exact List.not_mem_nil
    · refine (followed _).trans ((awaiting_none ?_).trans reported.symm)
      show .callState ∉ view.leg.agenda
      rw [idle]
      exact List.not_mem_nil
  | mediaFailed | deinitialized | sdpFailed | sessionFailed =>
    have state : (setUpLeg view.leg .mediaFailed).state = .disconnected := by
      unfold Leg.state
      show (match view.leg.session with | some session => session.state | none => .disconnected) = _
      rw [absent]
    refine ⟨.failing absent owns rfl rfl, fun _ => ⟨_, rfl, fun _ _ => coded rfl⟩, ?_, (followed _).trans ?_⟩
    · show .callState ∉ [Task.reset]
      decide
    · exact congrArg (fun state => [state]) state
  | mediaRefused | timerFailed | inviteFailed | notSent =>
    refine ⟨.failed absent owns rfl (.inl reported), fun _ => ⟨_, rfl, fun _ plan => ?_⟩, List.not_mem_nil, ?_⟩
    · exact absurd plan (show .callState ∉ [Task.reset] by decide)
    · exact (followed _).trans reported.symm

theorem legSound_session {event : SessionEvent} {session : Session} (sound : LegSound view)
    (held : view.leg.session = some session) (idle : view.leg.agenda = []) (arrives : Arrives session event)
    (safe : ¬ Crashes session event) (keeps : KeepsForward session event) :
    LegSound { view with
      leg := { view.leg with agenda := (event.script session.role session.state).map Task.change } } := by
  have silent : .callState ∉ (event.script session.role session.state).map Task.change := noCallState_changes
  have before : .callState ∉ view.leg.agenda := by
    rw [idle]
    exact List.not_mem_nil
  have shown : view.owns = true → ∃ code, view.held = callSession view.leg code view.leg.session ∧
      (view.leg.session = none → .callState ∈ (event.script session.role session.state).map Task.change → code ≠ 0) := by
    intro owns
    obtain ⟨code, filled, _⟩ := sound.shown owns
    exact ⟨code, filled, fun _ plan => absurd plan silent⟩
  refine ⟨?_, shown, fun member => silent (List.mem_of_mem_tail member), ?_⟩
  · cases sound.stage with
    | waiting absent _ _ _ | failing absent _ _ _ | failed absent _ _ _ | abandoned absent _ _ _ =>
      rw [held] at absent
      cases absent
    | going other same owns fits reported planned =>
      obtain rfl : session = other := Option.some.inj (held.symm.trans same)
      rw [idle] at planned
      have forward := script_forward fits arrives safe keeps
      exact .going session same owns fits reported (planned_changes forward planned)
    | gone other same lost down reported _ =>
      obtain rfl : session = other := Option.some.inj (held.symm.trans same)
      have forward := script_forward (Session.fits_over down) arrives safe keeps
      have none : (event.script session.role session.state).map Task.change = [] := by
        rw [down] at forward ⊢
        rw [forward_over forward]
        rfl
      exact .gone session same lost down reported (.inl none)
  · exact (congrArg _ (awaiting_none silent)).trans ((List.append_nil _).trans (sound.idle before))

theorem legSound_answer {outcome : AnswerOutcome} {session : Session} {rest : List Task} (sound : LegSound view)
    (held : view.leg.session = some session) (next : view.leg.agenda = .answer :: rest) :
    LegSound { view with
      leg := { view.leg with
        agenda := (answerChanges session outcome).map Task.change ++ rest, answered := some outcome } } := by
  obtain ⟨told, restSilent⟩ := sound.quiet next nofun
  obtain ⟨owns, fits, reported, server, incoming, alone⟩ := sound.going held next nofun
  have silent : .callState ∉ (answerChanges session outcome).map Task.change ++ rest := by
    intro member
    rcases List.mem_append.mp member with changed | kept
    · exact noCallState_changes changed
    · exact restSilent kept
  refine ⟨.going session held owns fits reported ?_, ?_, fun member => silent (List.mem_of_mem_tail member), ?_⟩
  · show Planned session.role session.state ((answerChanges session outcome).map Task.change ++ rest)
    rw [server, incoming, alone]
    cases outcome with
    | queued | refused => exact ⟨nofun, rfl⟩
    | sent => exact ⟨by decide, nofun, fun _ => ⟨nofun, rfl⟩⟩
    | failed => exact ⟨by decide, fun _ => .inr rfl, fun up => absurd rfl up⟩
  · intro owns
    obtain ⟨code, filled, _⟩ := sound.shown owns
    exact ⟨code, filled, fun _ plan => absurd plan silent⟩
  · exact (congrArg _ (awaiting_none silent)).trans ((List.append_nil _).trans told)

theorem changedLeg_session (leg : Leg) (session : Session) (change : Change) (rest : List Task) :
    (changedLeg leg session change rest).session = some (session.apply change) := by
  unfold changedLeg
  dsimp only
  split <;> rfl

theorem changedLeg_reported (leg : Leg) (session : Session) (change : Change) (rest : List Task) :
    (changedLeg leg session change rest).reported = session.reportsAfter change leg.reported := by
  unfold changedLeg Session.reportsAfter
  dsimp only
  split <;> rfl

theorem changedLeg_agenda (leg : Leg) (session : Session) (change : Change) (rest : List Task) :
    (changedLeg leg session change rest).agenda =
      if session.reports change then
        .callState :: (if (session.apply change).state = .disconnected then [.reset] else []) ++ rest
      else rest := by
  unfold changedLeg
  dsimp only
  split <;> rfl

theorem planned_changed {leg : Leg} {session : Session} {change : Change} {rest : List Task}
    (planned : Planned session.role session.state (.change change :: rest)) :
    Planned session.role (session.apply change).state (changedLeg leg session change rest).agenda := by
  rw [changedLeg_agenda]
  cases change with
  | restart => exact planned.2
  | set next =>
    obtain ⟨_, last, more⟩ := planned
    by_cases down : next = .disconnected
    · have reports : session.reports (.set next) = true := by
        rw [down]
        rfl
      have ended : (session.apply (.set next)).state = .disconnected := down
      rw [if_pos reports, if_pos ended, ended]
      exact ⟨rfl, last down⟩
    · split
      · have up : (session.apply (.set next)).state ≠ .disconnected := down
        rw [if_neg up]
        exact more down
      · exact more down

theorem legSound_change {change : Change} {session : Session} {rest : List Task} (sound : LegSound view)
    (held : view.leg.session = some session) (next : view.leg.agenda = .change change :: rest) :
    LegSound { view with
      leg := changedLeg view.leg session change rest
      held :=
        if view.owns then
          callSession view.leg view.held.lastCode (changedLeg view.leg session change rest).session
        else view.held } := by
  obtain ⟨told, restSilent⟩ := sound.quiet next nofun
  obtain ⟨owns, fits, reported, planned⟩ := sound.going held next nofun
  have forward := planned.change
  have attached := changedLeg_session view.leg session change rest
  refine ⟨.going (session.apply change) attached owns (Session.fits_apply forward) ?_ ?_, ?_, ?_, ?_⟩
  · show Reported _ (changedLeg view.leg session change rest).reported
    rw [changedLeg_reported]
    exact reported.apply forward
  · have role : (session.apply change).role = session.role := by cases change <;> rfl
    rw [role]
    exact planned_changed planned
  · intro _
    refine ⟨view.held.lastCode, ?_, ?_⟩
    · show (if view.owns then _ else _) = _
      rw [if_pos owns, (changedLeg_same view.leg session change rest).callSession]
    · intro absent
      rw [attached] at absent
      cases absent
  · show .callState ∉ (changedLeg view.leg session change rest).agenda.tail
    rw [changedLeg_agenda]
    split
    · intro member
      rcases List.mem_append.mp member with reset | later
      · split at reset
        · cases List.mem_singleton.mp reset
        · cases reset
      · exact restSilent later
    · exact fun member => restSilent (List.mem_of_mem_tail member)
  · show statuses view.events ++ (changedLeg view.leg session change rest).awaiting =
      (changedLeg view.leg session change rest).reported
    have agenda := changedLeg_agenda view.leg session change rest
    have state : (changedLeg view.leg session change rest).state = (session.apply change).state := by
      unfold Leg.state
      rw [attached]
    rw [told, changedLeg_reported]
    unfold Session.reportsAfter
    split
    · rename_i reports
      rw [if_pos reports] at agenda
      rw [awaiting_callState agenda, state]
    · rename_i silent
      rw [if_neg silent] at agenda
      have none : .callState ∉ (changedLeg view.leg session change rest).agenda := by
        rw [agenda]
        exact restSilent
      rw [awaiting_none none, List.append_nil]

theorem legSound_reset {rest : List Task} (sound : LegSound view) (next : view.leg.agenda = .reset :: rest) :
    LegSound { view with leg := { view.leg with agenda := rest }, owns := false, held := .reset } := by
  obtain ⟨told, silent⟩ := sound.quiet next nofun
  refine ⟨?_, nofun, fun member => silent (List.mem_of_mem_tail member), ?_⟩
  · cases sound.stage with
    | waiting _ _ agenda _ | failing _ _ agenda _ | abandoned _ _ agenda _ =>
      rw [next] at agenda
      cases agenda
    | failed absent _ agenda reported =>
      rw [next] at agenda
      exact .abandoned absent rfl (List.cons.inj agenda).2 reported
    | going session same _ _ reported planned =>
      rw [next] at planned
      exact .gone session same rfl planned.1 reported planned.2
    | gone _ _ _ _ _ leaves =>
      rw [next] at leaves
      cases leaves.no_task.1
  · exact (congrArg _ (awaiting_none silent)).trans ((List.append_nil _).trans told)

theorem callSession_dlg (leg : Leg) (code : Nat) (session : Option Session) :
    (callSession leg code session).dlg = some leg.dlg := by
  cases session <;> rfl

theorem LegSound.shows {info : CallInfo} {rest : List Task} (sound : LegSound view)
    (next : view.leg.agenda = .callState :: rest) (tells : Tells view.held info) : info.state = view.leg.state := by
  have due : .callState ∈ view.leg.agenda := by
    rw [next]
    exact List.mem_cons_self ..
  have told : view.owns = true → ∃ code, info.state = (callSession view.leg code view.leg.session).infoState ∧
      (view.leg.session = none → code ≠ 0) := by
    intro owns
    obtain ⟨code, filled, coded⟩ := sound.shown owns
    rw [filled] at tells
    exact ⟨code, (tells _ (callSession_dlg _ _ _)).1, fun absent => coded absent due⟩
  unfold Leg.state
  cases sound.stage with
  | waiting _ _ agenda _ | failed _ _ agenda _ | abandoned _ _ agenda _ =>
    rw [next] at agenda
    cases agenda
  | failing absent owns _ _ =>
    obtain ⟨code, told, coded⟩ := told owns
    have nonzero : (code == 0) = false := beq_eq_false_iff_ne.mpr (coded absent)
    rw [absent] at told
    rw [told, absent]
    show (if true && code == 0 then InvState.null else .disconnected) = .disconnected
    rw [nonzero]
    rfl
  | going session held owns _ _ _ =>
    obtain ⟨code, told, _⟩ := told owns
    rw [held] at told
    rw [told, held]
    rfl
  | gone _ _ _ _ _ leaves =>
    rw [next] at leaves
    cases leaves.no_task.1

theorem legSound_report {info : CallInfo} {rest : List Task} (sound : LegSound view)
    (next : view.leg.agenda = .callState :: rest) (tells : Tells view.held info) :
    LegSound { view with leg := { view.leg with agenda := rest }, events := view.events ++ [.status info.state] } := by
  have silent : .callState ∉ rest := by
    have single := sound.single
    rw [next] at single
    exact single
  refine ⟨?_, ?_, fun member => silent (List.mem_of_mem_tail member), ?_⟩
  · cases sound.stage with
    | waiting _ _ agenda _ | failed _ _ agenda _ | abandoned _ _ agenda _ =>
      rw [next] at agenda
      cases agenda
    | failing absent owns agenda reported =>
      rw [next] at agenda
      exact .failed absent owns (List.cons.inj agenda).2 (.inr reported)
    | going session held owns fits reported planned =>
      rw [next] at planned
      exact .going session held owns fits reported planned
    | gone _ _ _ _ _ leaves =>
      rw [next] at leaves
      cases leaves.no_task.1
  · intro owns
    obtain ⟨code, filled, _⟩ := sound.shown owns
    exact ⟨code, filled, fun _ plan => absurd plan silent⟩
  · have followed := sound.followed
    rw [awaiting_callState next] at followed
    have none : ({ view.leg with agenda := rest } : Leg).awaiting = [] := awaiting_none silent
    show statuses (view.events ++ [.status info.state]) ++ _ = view.leg.reported
    rw [statuses_append, sound.shows next tells, none, List.append_nil]
    exact followed

theorem legSound_announce {info : CallInfo} {rest : List Task} (sound : LegSound view)
    (next : view.leg.agenda = .announce :: rest) :
    LegSound { view with leg := { view.leg with agenda := rest }, events := view.events ++ [.incoming info] } := by
  obtain ⟨told, silent⟩ := sound.quiet next nofun
  refine ⟨?_, ?_, fun member => silent (List.mem_of_mem_tail member), ?_⟩
  · cases sound.stage with
    | waiting _ _ agenda _ | failing _ _ agenda _ | failed _ _ agenda _ | abandoned _ _ agenda _ =>
      rw [next] at agenda
      cases agenda
    | going session held owns fits reported planned =>
      rw [next] at planned
      obtain ⟨up, rfl⟩ := planned
      exact .going session held owns fits reported up
    | gone session held lost down reported leaves =>
      rw [next] at leaves
      obtain ⟨_, rfl⟩ := leaves.no_task
      exact .gone session held lost down reported (.inl rfl)
  · intro owns
    obtain ⟨code, filled, _⟩ := sound.shown owns
    exact ⟨code, filled, fun _ plan => absurd plan silent⟩
  · have none : ({ view.leg with agenda := rest } : Leg).awaiting = [] := awaiting_none silent
    show statuses (view.events ++ [.incoming info]) ++ _ = view.leg.reported
    rw [statuses_append, none, List.append_nil, told]
    exact List.append_nil _

theorem legSound_mediaReady (sound : LegSound view) :
    LegSound { view with leg := { view.leg with mediaPending := false } } := by
  refine ⟨?_, sound.shown, sound.single, sound.followed⟩
  cases sound.stage with
  | waiting absent owns agenda reported => exact .waiting absent owns agenda reported
  | failing absent owns agenda reported => exact .failing absent owns agenda reported
  | failed absent owns agenda reported => exact .failed absent owns agenda reported
  | abandoned absent lost agenda reported => exact .abandoned absent lost agenda reported
  | going session held owns fits reported planned => exact .going session held owns fits reported planned
  | gone session held lost down reported leaves => exact .gone session held lost down reported leaves

theorem LegSound.of_same {after : LegView} (sound : LegSound view) (leg : after.leg = view.leg)
    (owns : after.owns = view.owns) (held : view.owns = true → after.held = view.held)
    (events : after.events = view.events) : LegSound after := by
  obtain ⟨stage, shown, single, followed⟩ := sound
  obtain ⟨_, _, _, _, _⟩ := after
  dsimp only at leg owns held events
  subst leg owns events
  refine ⟨stage, ?_, single, followed⟩
  intro owns
  obtain ⟨code, filled, coded⟩ := shown owns
  exact ⟨code, (held owns).trans filled, coded⟩

end Moves

/-- No set-up of a call that has its slot fails with a callback while `last_code` is zero, and
    every event takes its session forward. -/
def KeepsLifeCycle (system : CallSystem) : CallLabel → Prop
  | .setUp _ exit => exit.callsBack = true → exit.lastCode ≠ 0
  | .session id event => ∀ session ∈ (system.legs id).bind Leg.session, KeepsForward session event
  | _ => True

instance (system : CallSystem) : (label : CallLabel) → Decidable (KeepsLifeCycle system label)
  | .setUp _ _ => inferInstanceAs (Decidable (_ → _))
  | .session _ _ => inferInstanceAs (Decidable (∀ session ∈ (_ : Option Session), _))
  | .makeCall .. | .incoming .. | .mediaReady _ | .answer .. | .perform _ | .enter _ | .fire _ | .unlock _ | .occupy
  | .vacate => instDecidableTrue

section Run

variable {before : CallSystem} {id : Nat} {label : CallLabel} {leg : Leg} {view : LegView}

theorem LegFresh.legSound (fresh : LegFresh before id view) : LegSound view := by
  obtain ⟨leg, owns, locked, held, events⟩ := view
  obtain ⟨_, started, owned, _, filled, silent⟩ := fresh
  dsimp only at started owned filled silent
  subst owned filled silent
  rcases started with ⟨slot, accId, dlg, rfl⟩ | ⟨slot, accId, dlg, mediaPending, replaces, rfl⟩
  · exact ⟨.waiting rfl rfl rfl rfl, fun _ => ⟨0, rfl, fun _ => nofun⟩, List.not_mem_nil, rfl⟩
  · have fits : ({ role := .uas, state := .incoming, callingReported := false } : Session).Fits := by
      refine ⟨?_, fun _ => rfl⟩
      intro early
      rcases early with impossible | impossible <;> cases impossible
    have reported : Reported { role := .uas, state := .incoming, callingReported := false } [] := reported_nil nofun nofun
    refine ⟨.going _ rfl rfl fits reported ?_, fun _ => ⟨0, rfl, nofun⟩, ?_, ?_⟩
    · cases replaces with
      | true => exact nofun
      | false => exact ⟨rfl, rfl, rfl⟩
    · cases replaces with
      | true => exact List.not_mem_nil
      | false =>
        show .callState ∉ [Task.announce]
        decide
    · cases replaces with
      | true => rfl
      | false => rfl

theorem LegSound.move {after : LegView} (known : before.legs id = some leg) (keeps : KeepsLifeCycle before label)
    (sound : LegSound (before.view id leg)) (moved : LegMove id label (before.view id leg) after) : LegSound after := by
  cases moved with
  | setUp exit absent idle owns => exact legSound_setUp sound absent idle owns keeps
  | mediaReady _ => exact legSound_mediaReady sound
  | @session _ event session held idle arrives safe =>
    have attached : session ∈ (before.legs id).bind Leg.session := by
      rw [known]
      exact held
    exact legSound_session sound held idle arrives safe (keeps session attached)
  | answer held next => exact legSound_answer sound held next
  | change held next => exact legSound_change sound held next
  | reset next => exact legSound_reset sound next
  | @fire _ info task rest kind next tells fired =>
    cases task with
    | callState =>
      cases fired
      exact legSound_report sound next tells
    | announce =>
      cases fired
      exact legSound_announce sound next
    | change _ | answer | reset => cases fired
  | unlock _ => exact sound.of_same rfl rfl (fun _ => rfl) rfl

theorem LegSound.owns_reset {rest : List Task} (sound : LegSound view) (next : view.leg.agenda = .reset :: rest) :
    view.owns = true := by
  cases sound.stage with
  | waiting _ owns _ _ | failing _ owns _ _ | failed _ owns _ _ | going _ _ owns _ _ _ => exact owns
  | abandoned _ _ agenda _ =>
    rw [next] at agenda
    cases agenda
  | gone _ _ _ _ _ leaves =>
    rw [next] at leaves
    cases leaves.no_task.1

theorem LegSound.frame {after : LegView} (all : AllLegs LegSound before) (sound : LegSound (before.view id leg))
    (frame : LegFrame before id (before.view id leg) after) : LegSound after := by
  have owns : after.owns = (before.view id leg).owns := by
    cases owned : (before.view id leg).owns with
    | false =>
      cases taken : after.owns with
      | false => rfl
      | true =>
        have still := (frame.kept taken).1
        rw [owned] at still
        cases still
    | true =>
      rcases frame.lost owned with still | ⟨_, other, third, rest, different, known, slot, next⟩
      · exact still
      · have theirs : before.owner third.slot = some other := view_owns.mp ((all.sound other third known).owns_reset next)
        have ours : before.owner leg.slot = some id := view_owns.mp owned
        have slot : third.slot = leg.slot := slot
        rw [slot, ours] at theirs
        exact absurd (Option.some.inj theirs).symm different
  refine sound.of_same frame.leg owns ?_ frame.events
  intro owned
  exact (frame.kept (owns.trans owned)).2

theorem run_legSound {labels : List CallLabel} {system : CallSystem}
    (run : Execution (guarded CallStep KeepsLifeCycle) startCalls labels system) : AllLegs LegSound system := by
  refine run.invariant ?_ startCalls_allLegs
  intro before label after all stepped
  apply all.step stepped.2 (fun _ _ fresh => fresh.legSound)
  · intro id leg view known sound moved
    exact sound.move known stepped.1 moved
  · intro id leg view _ sound framed
    exact sound.frame all framed

end Run

/-- The status events of a call: one for each report, in order, with at most one on its way;
    never back, none for a call that has no state yet, and once the slot was reset, if there
    was any, DISCONNECTED once and last. -/
structure LifeCycle (view : LegView) : Prop where
  followed : statuses view.events ++ view.leg.awaiting = view.leg.reported
  ascends : Ascends progress .disconnected (statuses view.events)
  named : .null ∉ statuses view.events
  closed : view.owns = false → statuses view.events = [] ∨
    (statuses view.events).getLast? = some .disconnected ∧ (statuses view.events).count .disconnected = 1

theorem LegSound.lifeCycle {view : LegView} (sound : LegSound view) : LifeCycle view := by
  have ascends : Ascends progress .disconnected view.leg.reported ∧ .null ∉ view.leg.reported := by
    have alone : Ascends progress .disconnected [InvState.disconnected] := List.pairwise_singleton _ _
    cases sound.stage with
    | waiting _ _ _ reported =>
      rw [reported]
      exact ⟨ascends_nil, List.not_mem_nil⟩
    | failing _ _ _ reported =>
      rw [reported]
      exact ⟨alone, by decide⟩
    | failed _ _ _ reported | abandoned _ _ _ reported =>
      rcases reported with none | one
      · rw [none]
        exact ⟨ascends_nil, List.not_mem_nil⟩
      · rw [one]
        exact ⟨alone, by decide⟩
    | going _ _ _ _ reported _ | gone _ _ _ _ reported _ => exact ⟨reported.ascends, reported.named⟩
  have followed := sound.followed
  obtain ⟨ascends, named⟩ := ascends
  refine ⟨followed, ?_, ?_, ?_⟩
  · rw [← followed] at ascends
    exact ascends.of_append
  · rw [← followed] at named
    exact fun member => named (List.mem_append_left _ member)
  · intro lost
    have quiet : .callState ∉ view.leg.agenda ∧ (view.leg.reported = [] ∨ .disconnected ∈ view.leg.reported) := by
      cases sound.stage with
      | waiting _ owns _ _ | failing _ owns _ _ | failed _ owns _ _ | going _ _ owns _ _ _ =>
        rw [lost] at owns
        cases owns
      | abandoned _ _ agenda reported =>
        rw [agenda]
        refine ⟨List.not_mem_nil, ?_⟩
        rcases reported with none | one
        · exact .inl none
        · rw [one]
          exact .inr (List.mem_singleton_self _)
      | gone session _ _ down reported leaves =>
        refine ⟨?_, .inr (List.mem_of_getLast? (reported.ended down))⟩
        rcases leaves with none | announce
        · rw [none]
          exact List.not_mem_nil
        · rw [announce]
          decide
    rw [sound.idle quiet.1]
    rcases quiet.2 with none | ended
    · exact .inl none
    · exact .inr (ascends.closed ended)

theorem call_lifeCycle {labels : List CallLabel} {system : CallSystem} {id : Nat} {leg : Leg}
    (run : Execution (guarded CallStep KeepsLifeCycle) startCalls labels system) (held : system.legs id = some leg) :
    LifeCycle (system.view id leg) :=
  ((run_legSound run).sound id leg held).lifeCycle

def wholeCall : List CallLabel :=
  let course : Outcomes :=
    { tagged := true, secure := true, timer := .accepted, renewed := false, pendingCancel := none, sdp := none,
      negotiated := true, acked := true, refresh := false, ending := .sent }
  let invite (state : TsxState) (code : Nat) : SessionEvent :=
    .tsx { current := true, role := .uac, method := .invite, state, code, received := code ≠ 0 } course
  let bye : SessionEvent :=
    .tsx { current := false, role := .uas, method := .bye, state := .trying, code := 0, received := true } course
  let report : List CallLabel := [.perform 0, .enter 0, .fire 0]
  [.makeCall 0 0 0 sampleDialog, .setUp 0 .invited, .unlock 0, .session 0 (invite .calling 0)] ++ report ++
    [.session 0 (invite .proceeding 180)] ++ report ++ [.session 0 (invite .terminated 200)] ++ report ++ report ++
    [.session 0 bye] ++ report ++ [.perform 0]

theorem whole_call_lifeCycle :
    ∃ system leg, Execution (guarded CallStep KeepsLifeCycle) startCalls wholeCall system ∧ system.legs 0 = some leg ∧
      statuses (eventsOf system.log 0) = [.calling, .early, .connecting, .confirmed, .disconnected] ∧
        LifeCycle (system.view 0 leg) := by
  have ran : (wholeCall.foldlM (fun system label => if KeepsLifeCycle system label then callStep system label else none)
      startCalls).any fun system =>
        (system.legs 0).isSome ∧
          statuses (eventsOf system.log 0) = [.calling, .early, .connecting, .confirmed, .disconnected] := by decide
  obtain ⟨system, ended, met⟩ := (Option.any_eq_true _ _).mp ran
  obtain ⟨known, passed⟩ := of_decide_eq_true met
  obtain ⟨leg, held⟩ := Option.isSome_iff_exists.mp known
  have run := Execution.guarded_of_foldlM callStep KeepsLifeCycle wholeCall ended
  exact ⟨system, leg, run, held, passed, call_lifeCycle run held⟩

/-- No SDP can be created for a call that is placed. -/
def failedCall : List CallLabel :=
  [.makeCall 0 0 0 sampleDialog, .setUp 0 .sdpFailed, .enter 0, .fire 0, .perform 0]

theorem failed_call_only_ready :
    ∃ system leg, Execution CallStep startCalls failedCall system ∧ system.legs 0 = some leg ∧
      (system.view 0 leg).owns = false ∧ eventsOf system.log 0 = [.status .null] ∧ ¬ LifeCycle (system.view 0 leg) := by
  have ran : (failedCall.foldlM callStep startCalls).any fun system =>
      eventsOf system.log 0 = [.status .null] ∧
        (system.legs 0).any fun leg => (system.view 0 leg).owns = false := by decide
  obtain ⟨system, ended, met⟩ := (Option.any_eq_true _ _).mp ran
  obtain ⟨events, met⟩ := of_decide_eq_true met
  obtain ⟨leg, held, met⟩ := (Option.any_eq_true _ _).mp met
  have lost := of_decide_eq_true met
  refine ⟨system, leg, Execution.of_foldlM callStep failedCall ended, held, lost, events, ?_⟩
  intro sound
  have fired : (system.view 0 leg).events = [.status .null] := events
  have named := sound.named
  rw [fired] at named
  exact named (List.mem_singleton_self _)

end TiSIP.Calls
