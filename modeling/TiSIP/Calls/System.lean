import TiSIP.Lib.Transition
import TiSIP.Module.Observers
import TiSIP.Pjsip.Forward
import TiSIP.Pjsua.Call

namespace TiSIP.Calls

open Pjsip Pjsua Transition

/-- How `pjsua_call_answer(callId, 180)` goes; a refused response causes no change of its
    transaction. -/
inductive AnswerOutcome
  | queued
  | refused
  | sent
  | failed
  deriving DecidableEq

inductive Task
  | change (change : Change)
  | callState
  | answer
  | announce
  | reset
  deriving DecidableEq

structure Leg where
  slot : Fin maxCalls
  accId : Int
  dlg : Dialog
  /-- the library invokes `onIncomingCall` for it -/
  announces : Bool
  mediaPending : Bool
  session : Option Session
  agenda : List Task
  /-- the states `on_call_state` was called for -/
  reported : List InvState
  answered : Option AnswerOutcome

inductive CallEventKind
  | status (state : InvState)
  | incoming (info : CallInfo)
  deriving DecidableEq

structure CallEvent where
  leg : Nat
  kind : CallEventKind
  deriving DecidableEq

inductive Holder
  | leg (id : Nat)
  | other
  deriving DecidableEq

structure CallSystem where
  var : CallVar
  legs : Nat → Option Leg
  /-- the call that `inv` and `async_call.dlg` of a slot belong to -/
  owner : Fin maxCalls → Option Nat
  /-- the call that a thread sets up with the PJSUA lock held -/
  lock : Option Nat
  queue : Option Holder
  log : List CallEvent

inductive SetUpExit
  | mediaRefused
  | mediaFailed
  | deinitialized
  | sdpFailed
  | sessionFailed
  | timerFailed
  | inviteFailed
  | notSent
  | invited
  deriving DecidableEq

/-- The exits with `inv == NULL && !cb_called`. -/
def SetUpExit.callsBack : SetUpExit → Bool
  | mediaFailed | deinitialized | sdpFailed | sessionFailed => true
  | _ => false

def SetUpExit.lastCode : SetUpExit → Nat
  | mediaFailed => 480
  | _ => 0

def startCalls : CallSystem where
  var := startVar
  legs := fun _ => none
  owner := fun _ => none
  lock := none
  queue := none
  log := []

def sampleDialog : Dialog where
  remoteInfo := [0x62, 0x6f, 0x62]
  remoteContact := none
  callId := [0x37, 0x66]

inductive CallLabel
  | makeCall (id : Nat) (slot : Fin maxCalls) (accId : Int) (dlg : Dialog)
  | setUp (id : Nat) (exit : SetUpExit)
  | incoming (id : Nat) (slot : Fin maxCalls) (accId : Int) (dlg : Dialog) (mediaPending replaces : Bool)
  | mediaReady (id : Nat)
  | session (id : Nat) (event : SessionEvent)
  | answer (id : Nat) (outcome : AnswerOutcome)
  | perform (id : Nat)
  | enter (id : Nat)
  | fire (id : Nat)
  | unlock (id : Nat)
  | occupy
  | vacate

section Steps

variable (system : CallSystem) (id : Nat)

def CallSystem.setLeg (leg : Leg) : CallSystem :=
  { system with legs := Function.update system.legs id (some leg) }

def CallSystem.setSession (slot : Fin maxCalls) (session : CallSession) : CallSystem :=
  { system with var := setCall system.var slot { system.var.calls slot with session } }

def CallSystem.Locks : Prop := system.lock = none ∨ system.lock = some id

instance : Decidable (system.Locks id) := inferInstanceAs (Decidable (_ ∨ _))

def callSession (leg : Leg) (lastCode : Nat) (session : Option Session) : CallSession where
  accId := leg.accId
  inv := session.map fun session => { state := session.state, dlg := leg.dlg }
  asyncDlg := some leg.dlg
  lastCode
  hangingUp := false

def seat (leg : Leg) : CallSystem :=
  let system := { system with owner := Function.update system.owner leg.slot (some id), lock := some id }
  (system.setSession leg.slot (callSession leg 0 leg.session)).setLeg id leg

def allocate (leg : Leg) : Option CallSystem :=
  if (system.legs id).isSome ∨ (system.var.calls leg.slot).Live ∨ system.lock.isSome then none
  else some (seat system id leg)

def outgoingLeg (slot : Fin maxCalls) (accId : Int) (dlg : Dialog) : Leg where
  slot
  accId
  dlg
  announces := false
  mediaPending := false
  session := none
  agenda := []
  reported := []
  answered := none

-- The 100 has been sent when the session is attached to the call.
def incomingLeg (slot : Fin maxCalls) (accId : Int) (dlg : Dialog) (mediaPending replaces : Bool) : Leg where
  slot
  accId
  dlg
  announces := !replaces
  mediaPending
  session := some { role := .uas, state := .incoming, callingReported := false }
  agenda := if replaces then [] else [.answer, .announce]
  reported := []
  answered := none

def setUpLeg (leg : Leg) (exit : SetUpExit) : Leg :=
  if exit = .invited then
    { leg with session := some { role := .uac, state := .null, callingReported := false } }
  else if exit.callsBack then { leg with agenda := [.callState, .reset], reported := [.disconnected] }
  else { leg with agenda := [.reset] }

/-- The end of the set-up of an outgoing call. A hang-up before it reads `call->inv->role` of
    a session that does not exist. -/
def setUp (leg : Leg) (exit : SetUpExit) : Option CallSystem :=
  if leg.session.isSome ∨ leg.agenda ≠ [] ∨ system.owner leg.slot ≠ some id ∨ ¬ system.Locks id then none
  else
    let leg := setUpLeg leg exit
    let system := { system with lock := some id }
    some ((system.setSession leg.slot (callSession leg exit.lastCode leg.session)).setLeg id leg)

def answerEvent (outcome : AnswerOutcome) : Option TsxEvent :=
  match outcome with
  | .queued | .refused => none
  | .sent =>
    some { current := true, role := .uas, method := .invite, state := .proceeding, code := 180, received := false }
  | .failed =>
    some { current := true, role := .uas, method := .invite, state := .terminated, code := 503, received := false }

def answerChanges (session : Session) (outcome : AnswerOutcome) : List Change :=
  match answerEvent outcome with
  | none => []
  | some event => onStateIncoming event session.state

def answer (leg : Leg) (session : Session) (outcome : AnswerOutcome) (rest : List Task) : Option CallSystem :=
  if leg.mediaPending ∧ outcome ≠ .queued then none
  else
    let agenda := (answerChanges session outcome).map Task.change ++ rest
    some (system.setLeg id { leg with agenda, answered := some outcome })

/-- `pjsua_call_on_state_changed` after a change of the session. -/
def changedLeg (leg : Leg) (session : Session) (change : Change) (rest : List Task) : Leg :=
  let after := session.apply change
  if session.reports change then
    { leg with
      session := some after
      agenda := .callState :: (if after.state = .disconnected then [.reset] else []) ++ rest
      reported := leg.reported ++ [after.state] }
  else { leg with session := some after, agenda := rest }

def perform (leg : Leg) : Option CallSystem :=
  match leg.agenda, leg.session with
  | .change change :: rest, some session =>
    let changed := changedLeg leg session change rest
    let system :=
      if system.owner leg.slot = some id then
        system.setSession leg.slot (callSession leg (system.var.calls leg.slot).session.lastCode changed.session)
      else system
    some (system.setLeg id changed)
  | .reset :: rest, _ =>
    if system.Locks id then
      let system :=
        { system with
          var := callEnd system.var leg.slot
          owner := Function.update system.owner leg.slot none }
      some (system.setLeg id { leg with agenda := rest })
    else none
  | _, _ => none

def firedKind (info : CallInfo) : Task → Option CallEventKind
  | .callState => some (.status info.state)
  | .announce => some (.incoming info)
  | _ => none

def Dispatches : List Task → Bool
  | .callState :: _ | .announce :: _ => true
  | _ => false

def fire (leg : Leg) : Option CallSystem :=
  match leg.agenda with
  | [] => none
  | task :: rest =>
    if system.queue = some (.leg id) ∧ system.Locks id then
      (firedKind (callGetInfo system.var leg.slot.val .zero).2 task).map fun kind =>
        { system.setLeg id { leg with agenda := rest } with
          queue := none
          log := system.log ++ [{ leg := id, kind }] }
    else none

end Steps

def callStep (system : CallSystem) : CallLabel → Option CallSystem
  | .makeCall id slot accId dlg => allocate system id (outgoingLeg slot accId dlg)
  | .setUp id exit => (system.legs id).bind fun leg => setUp system id leg exit
  | .incoming id slot accId dlg mediaPending replaces =>
    allocate system id (incomingLeg slot accId dlg mediaPending replaces)
  | .mediaReady id =>
    (system.legs id).bind fun leg =>
      if leg.agenda = [] then some (system.setLeg id { leg with mediaPending := false }) else none
  | .session id event =>
    (system.legs id).bind fun leg =>
      leg.session.bind fun session =>
        if leg.agenda = [] ∧ Arrives session event ∧ ¬ Crashes session event then
          let agenda := (event.script session.role session.state).map Task.change
          some (system.setLeg id { leg with agenda })
        else none
  | .answer id outcome =>
    (system.legs id).bind fun leg =>
      match leg.agenda, leg.session with
      | .answer :: rest, some session => answer system id leg session outcome rest
      | _, _ => none
  | .perform id => (system.legs id).bind (perform system id)
  | .enter id =>
    (system.legs id).bind fun leg =>
      if system.queue = none ∧ Dispatches leg.agenda then some { system with queue := some (.leg id) } else none
  | .fire id => (system.legs id).bind (fire system id)
  | .unlock id =>
    (system.legs id).bind fun leg =>
      if system.lock = some id ∧ leg.agenda = [] then some { system with lock := none } else none
  | .occupy => if system.queue = none then some { system with queue := some .other } else none
  | .vacate => if system.queue = some .other then some { system with queue := none } else none

def CallStep (before : CallSystem) (label : CallLabel) (after : CallSystem) : Prop :=
  callStep before label = some after

end TiSIP.Calls
