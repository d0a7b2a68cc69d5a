import TiSIP.Calls.System

namespace TiSIP.Calls

open Pjsip Pjsua

def eventsOf (log : List CallEvent) (id : Nat) : List CallEventKind :=
  (log.filter fun event => event.leg = id).map CallEvent.kind

theorem eventsOf_own (log : List CallEvent) (id : Nat) (kind : CallEventKind) :
    eventsOf (log ++ [{ leg := id, kind }]) id = eventsOf log id ++ [kind] := by
  simp [eventsOf]

theorem eventsOf_other {log : List CallEvent} {id other : Nat} {kind : CallEventKind} (different : other ≠ id) :
    eventsOf (log ++ [{ leg := other, kind }]) id = eventsOf log id := by
  simp [eventsOf, different]

/-- All of a state that one call depends on. -/
@[ext]
structure LegView where
  leg : Leg
  owns : Bool
  locked : Bool
  held : CallSession
  events : List CallEventKind

def CallSystem.view (system : CallSystem) (id : Nat) (leg : Leg) : LegView where
  leg
  owns := system.owner leg.slot = some id
  locked := system.lock = some id
  held := (system.var.calls leg.slot).session
  events := eventsOf system.log id

def Tells (session : CallSession) (info : CallInfo) : Prop :=
  ∀ dlg, session.dlg = some dlg → info.state = session.infoState ∧ info.remoteInfo = infoBuffer dlg.remoteInfo ∧
    info.remoteContact = infoContact dlg.remoteContact ∧ info.callId = infoBuffer dlg.callId

theorem callGetInfo_tells (var : CallVar) (index : Fin maxCalls) :
    Tells (var.calls index).session (callGetInfo var index.val .zero).2 := by
  intro dlg held
  unfold callGetInfo
  rw [SlotTable.slotOf_val]
  dsimp only
  rw [held]
  exact ⟨rfl, rfl, rfl, rfl⟩

inductive LegMove (id : Nat) : CallLabel → LegView → LegView → Prop
  | setUp {view : LegView} (exit : SetUpExit) : view.leg.session = none → view.leg.agenda = [] → view.owns = true →
      LegMove id (.setUp id exit) view
        { view with
          leg := setUpLeg view.leg exit
          locked := true
          held := callSession view.leg exit.lastCode (setUpLeg view.leg exit).session }
  | mediaReady {view : LegView} : view.leg.agenda = [] →
      LegMove id (.mediaReady id) view { view with leg := { view.leg with mediaPending := false } }
  | session {view : LegView} {event : SessionEvent} {session : Session} :
      view.leg.session = some session → view.leg.agenda = [] → Arrives session event → ¬ Crashes session event →
        LegMove id (.session id event) view
          { view with leg := { view.leg with agenda := (event.script session.role session.state).map Task.change } }
  | answer {view : LegView} {outcome : AnswerOutcome} {session : Session} {rest : List Task} :
      view.leg.session = some session → view.leg.agenda = .answer :: rest →
        LegMove id (.answer id outcome) view
          { view with
            leg := { view.leg with
              agenda := (answerChanges session outcome).map Task.change ++ rest, answered := some outcome } }
  | change {view : LegView} {change : Change} {session : Session} {rest : List Task} :
      view.leg.session = some session → view.leg.agenda = .change change :: rest →
        LegMove id (.perform id) view
          { view with
            leg := changedLeg view.leg session change rest
            held :=
              if view.owns then
                callSession view.leg view.held.lastCode (changedLeg view.leg session change rest).session
              else view.held }
  | reset {view : LegView} {rest : List Task} : view.leg.agenda = .reset :: rest →
      LegMove id (.perform id) view
        { view with leg := { view.leg with agenda := rest }, owns := false, held := .reset }
  | fire {view : LegView} {info : CallInfo} {task : Task} {rest : List Task} {kind : CallEventKind} :
      view.leg.agenda = task :: rest → Tells view.held info → firedKind info task = some kind →
        LegMove id (.fire id) view
          { view with leg := { view.leg with agenda := rest }, events := view.events ++ [kind] }
  | unlock {view : LegView} : view.leg.agenda = [] → LegMove id (.unlock id) view { view with locked := false }

/-- What a step about another call, or none, leaves of a call: its slot is taken away only by
    a reset that another call still had to do, and never while its thread has the lock. -/
structure LegFrame (system : CallSystem) (id : Nat) (before after : LegView) : Prop where
  leg : after.leg = before.leg
  events : after.events = before.events
  locked : after.locked = before.locked
  kept : after.owns = true → before.owns = true ∧ after.held = before.held
  lost : before.owns = true → after.owns = true ∨ before.locked = false ∧
    ∃ other leg rest, other ≠ id ∧ system.legs other = some leg ∧ leg.slot = before.leg.slot ∧ leg.agenda = .reset :: rest

theorem LegFrame.refl {system : CallSystem} {id : Nat} {view : LegView} : LegFrame system id view view :=
  ⟨rfl, rfl, rfl, fun owns => ⟨owns, rfl⟩, fun owns => .inl owns⟩

structure LegFresh (before : CallSystem) (id : Nat) (view : LegView) : Prop where
  unknown : before.legs id = none
  leg : (∃ slot accId dlg, view.leg = outgoingLeg slot accId dlg) ∨
    ∃ slot accId dlg mediaPending replaces, view.leg = incomingLeg slot accId dlg mediaPending replaces
  owns : view.owns = true
  locked : view.locked = true
  held : view.held = callSession view.leg 0 view.leg.session
  events : view.events = []

def StepsOver (before : CallSystem) (label : CallLabel) (after : CallSystem) : Prop :=
  ∀ id leg, after.legs id = some leg →
    LegFresh before id (after.view id leg) ∨
      ∃ former, before.legs id = some former ∧
        (LegMove id label (before.view id former) (after.view id leg) ∨
          LegFrame before id (before.view id former) (after.view id leg))

structure CallsFormed (system : CallSystem) : Prop where
  used : ∀ slot id, system.owner slot = some id → (system.var.calls slot).Live
  owned : ∀ slot id, system.owner slot = some id → ∃ leg, system.legs id = some leg ∧ leg.slot = slot
  recorded : ∀ id, system.legs id = none → eventsOf system.log id = []

section Steps

variable {before after : CallSystem} {label : CallLabel} {id : Nat} {leg : Leg}

theorem StepsOver.of_leg (own : after.legs id = some leg)
    (moved : LegFresh before id (after.view id leg) ∨
      ∃ former, before.legs id = some former ∧ LegMove id label (before.view id former) (after.view id leg))
    (legs : ∀ other, other ≠ id → after.legs other = before.legs other)
    (frame : ∀ other third, other ≠ id → before.legs other = some third →
      LegFrame before other (before.view other third) (after.view other third)) : StepsOver before label after := by
  intro other third held
  by_cases same : other = id
  · subst same
    obtain rfl : leg = third := Option.some.inj (own.symm.trans held)
    rcases moved with fresh | ⟨former, known, move⟩
    · exact .inl fresh
    · exact .inr ⟨former, known, .inl move⟩
  · rw [legs other same] at held
    exact .inr ⟨third, held, .inr (frame other third same held)⟩

theorem StepsOver.of_same (legs : after.legs = before.legs) (views : ∀ id leg, after.view id leg = before.view id leg) :
    StepsOver before label after := by
  intro id leg held
  rw [legs] at held
  refine .inr ⟨leg, held, .inr ?_⟩
  rw [views]
  exact .refl

theorem setLeg_own (system : CallSystem) (id : Nat) (leg : Leg) : (system.setLeg id leg).legs id = some leg :=
  Function.update_self _ _ _

theorem setLeg_other {system : CallSystem} {other : Nat} (different : other ≠ id) :
    (system.setLeg id leg).legs other = system.legs other :=
  Function.update_of_ne different _ _

theorem setSession_own (system : CallSystem) (slot : Fin maxCalls) (session : CallSession) :
    ((system.setSession slot session).var.calls slot).session = session := by
  unfold CallSystem.setSession
  rw [setCall_own]

theorem setSession_other {system : CallSystem} {slot other : Fin maxCalls} {session : CallSession}
    (different : other ≠ slot) : (system.setSession slot session).var.calls other = system.var.calls other :=
  setCall_other different

theorem callSession_live (leg : Leg) (lastCode : Nat) (session : Option Session) :
    (callSession leg lastCode session).dlg.isSome := by
  cases session <;> rfl

theorem StepsOver.of_agenda {former : Leg} (known : before.legs id = some former)
    (move : LegMove id label (before.view id former) ((before.setLeg id leg).view id leg)) :
    StepsOver before label (before.setLeg id leg) :=
  .of_leg (setLeg_own _ _ _) (.inr ⟨former, known, move⟩) (fun _ => setLeg_other) fun _ _ _ _ => .refl

theorem CallsFormed.setLeg {former : Leg} (formed : CallsFormed before) (known : before.legs id = some former)
    (slot : leg.slot = former.slot) : CallsFormed (before.setLeg id leg) where
  used := formed.used
  owned := by
    intro slot' owner owns
    obtain ⟨third, held, sits⟩ := formed.owned slot' owner owns
    by_cases same : owner = id
    · subst same
      obtain rfl : former = third := Option.some.inj (known.symm.trans held)
      exact ⟨leg, setLeg_own _ _ _, slot.trans sits⟩
    · exact ⟨third, (setLeg_other same).trans held, sits⟩
  recorded := by
    intro other unknown
    by_cases same : other = id
    · subst same
      rw [setLeg_own] at unknown
      cases unknown
    · rw [setLeg_other same] at unknown
      exact formed.recorded other unknown

theorem view_owns {system : CallSystem} : (system.view id leg).owns = true ↔ system.owner leg.slot = some id :=
  decide_eq_true_iff

theorem view_unlocked {system : CallSystem} (free : system.lock ≠ some id) : (system.view id leg).locked = false :=
  decide_eq_false free

theorem Locks.other {system : CallSystem} {other : Nat} (locks : system.Locks id) (different : other ≠ id) :
    system.lock ≠ some other := by
  rcases locks with free | own
  · rw [free]
    exact nofun
  · rw [own]
    exact fun same => different (Option.some.inj same).symm

theorem LegFrame.of_slot {slot : Fin maxCalls} {other : Nat} {third : Leg} (different : other ≠ id)
    (owns : before.owner slot = some id) (owner : after.owner = before.owner)
    (calls : ∀ index, index ≠ slot → after.var.calls index = before.var.calls index) (log : after.log = before.log)
    (locked : (after.view other third).locked = (before.view other third).locked) :
    LegFrame before other (before.view other third) (after.view other third) := by
  have elsewhere : before.owner third.slot = some other → third.slot ≠ slot := by
    intro held same
    rw [same, owns] at held
    exact different (Option.some.inj held).symm
  refine ⟨rfl, ?_, locked, ?_, ?_⟩
  · show eventsOf after.log other = eventsOf before.log other
    rw [log]
  · intro still
    rw [view_owns, owner] at still
    refine ⟨view_owns.mpr still, ?_⟩
    show (after.var.calls third.slot).session = (before.var.calls third.slot).session
    rw [calls third.slot (elsewhere still)]
  · intro had
    refine .inl (view_owns.mpr ?_)
    rw [owner]
    exact view_owns.mp had

end Steps

end TiSIP.Calls
