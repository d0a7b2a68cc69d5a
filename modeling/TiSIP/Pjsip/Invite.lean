import TiSIP.Pjsua.CallInfo

namespace TiSIP.Pjsip

open Pjsua (InvState)

inductive Role
  | uac
  | uas
  deriving DecidableEq

inductive Method
  | invite
  | cancel
  | bye
  | update
  | prack
  | other
  deriving DecidableEq

inductive TsxState
  | null
  | calling
  | trying
  | proceeding
  | completed
  | confirmed
  | terminated
  | destroyed
  deriving DecidableEq

structure TsxEvent where
  current : Bool
  role : Role
  method : Method
  state : TsxState
  code : Nat
  received : Bool
  deriving DecidableEq

inductive SendOutcome
  | notCreated
  | sent
  | failed
  deriving DecidableEq

inductive TimerOutcome
  | accepted
  | failed
  /-- a 422 with Min-SE: the INVITE request is sent anew -/
  | restarted
  deriving DecidableEq

structure Outcomes where
  tagged : Bool
  secure : Bool
  timer : TimerOutcome
  renewed : Bool
  /-- a CANCEL was waiting for a provisional response -/
  pendingCancel : Option SendOutcome
  /-- the media of the SDP fail, and `call_disconnect` ends the session -/
  sdp : Option SendOutcome
  /-- no offer is left without an answer -/
  negotiated : Bool
  acked : Bool
  refresh : Bool
  ending : SendOutcome
  deriving DecidableEq

inductive Change
  | set (state : InvState)
  | restart
  deriving DecidableEq

def Change.result : Change → InvState
  | set state => state
  | restart => .null

def settled (state : InvState) (changes : List Change) : InvState :=
  changes.foldl (fun _ change => change.result) state

abbrev Script : Type := InvState → List Change

def skip : Script := fun _ => []

def put (state : InvState) : Script := fun _ => [.set state]

def Script.andThen (first next : Script) : Script :=
  fun state => first state ++ next (settled state (first state))

def beforeConfirmed : InvState → Bool
  | .confirmed | .disconnected => false
  | _ => true

def isSuccess (code : Nat) : Bool := code / 100 == 2

section Parts

variable (role : Role) (event : TsxEvent) (course : Outcomes)

/-- The transaction of a CANCEL could not send it; in the state EARLY that is no matter. -/
def cancelFailed : Script
  | .calling => [.set .disconnected]
  | _ => []

-- A BYE that has to wait for the ACK counts as sent.
def endSession (outcome : SendOutcome) : Script := fun state =>
  match state with
  | .calling | .early | .incoming =>
    match role, outcome with
    | .uac, .failed => cancelFailed state
    | .uac, _ => []
    | .uas, .notCreated => []
    | .uas, _ => [.set .disconnected]
  | .connecting | .confirmed => if outcome = .failed then [.set .disconnected] else []
  | .null | .disconnected => []

def processSdp : Script :=
  match course.sdp with
  | none => skip
  | some outcome => endSession role outcome

/-- `inv_set_state` to CONFIRMED, which ends the session while the offer has no answer. -/
def confirm : Script := if course.negotiated then put .confirmed else endSession role course.ending

def sendAck : Script := fun state =>
  if course.acked && beforeConfirmed state then confirm role course state else []

def checked (next : Script) : Script :=
  if ¬ course.secure ∨ course.timer = .failed then endSession role course.ending
  else (processSdp role course).andThen next

-- No redirection is followed: the application has no callback for it.
def callRejection : Script :=
  if (event.code = 401 ∨ event.code = 407) ∧ course.renewed then fun _ => [.restart]
  else if event.state = .completed ∧ event.code = 422 ∧ course.timer ≠ .failed then
    if course.timer = .restarted then fun _ => [.restart] else skip
  else put .disconnected

def timerRestart : Script := if course.timer = .restarted then fun _ => [.restart] else skip

def refreshError : Script := if course.refresh then endSession role course.ending else skip

def uacTsxResponse : Script := fun state =>
  if state ≠ .disconnected ∧ (event.code = 481 ∧ event.method ≠ .cancel ∨ event.code = 408) then [.set .disconnected]
  else if event.state = .completed ∧ (event.code = 401 ∨ event.code = 407) then []
  else if event.state = .completed ∧ event.code = 422 then timerRestart course state
  else if event.state = .terminated ∧ (event.code = 503 ∨ event.code = 502) then refreshError role course state
  else []

def updateResponse (unhandled : Script) : Script :=
  if event.state = .completed ∧ (event.code = 401 ∨ event.code = 407) then skip
  else if event.state = .completed ∧ event.code = 422 then timerRestart course
  else if event.state = .completed ∧ isSuccess event.code then
    if course.secure then processSdp role course else endSession role course.ending
  else if event.state = .terminated ∧ (event.code = 503 ∨ event.code = 502) then refreshError role course
  else if event.state = .completed then skip
  else unhandled

def byeResponse : Script :=
  if event.received ∧ (event.code = 401 ∨ event.code = 407) ∧ course.renewed then skip else put .disconnected

def respondIncomingBye : Script := fun state =>
  if course.ending = .sent ∧ state ≠ .disconnected then [.set .disconnected] else []

end Parts

section Handlers

variable (role : Role) (event : TsxEvent) (course : Outcomes)

-- What a handler sends last comes back as an event of its own; so does the 487 that ends an
-- INVITE after its CANCEL.
def onStateCalling : Script :=
  if event.current then
    match event.state with
    | .calling => put .calling
    | .proceeding =>
      let cancelled := match course.pendingCancel with
        | none => skip
        | some outcome => endSession role outcome
      cancelled.andThen (if course.tagged then (put .early).andThen (processSdp role course) else skip)
    | .completed =>
      if isSuccess event.code then (put .connecting).andThen (checked role course skip)
      else callRejection event course
    | .terminated =>
      if isSuccess event.code then (put .connecting).andThen (checked role course (sendAck role course))
      else put .disconnected
    | _ => skip
  else if event.role = .uac then
    if event.code = 481 ∧ event.method ≠ .cancel ∨ event.code = 408 ∨ event.code = 503 then put .disconnected else skip
  else if event.state = .trying ∧ event.method = .update then processSdp role course
  else skip

def onStateIncoming : Script :=
  if event.current then
    match event.state with
    | .trying => put .incoming
    | .proceeding => if 100 < event.code then put .early else skip
    | .completed => if isSuccess event.code then put .connecting else put .disconnected
    | .terminated => put .disconnected
    | _ => skip
  else skip

def onStateNull : Script :=
  if event.method = .invite then
    match role with
    | .uac => if event.state = .calling then put .calling else onStateCalling role event course
    | .uas =>
      match event.state with
      | .trying => put .incoming
      | .proceeding => (put .incoming).andThen (if 100 < event.code then put .early else skip)
      | .terminated => put .disconnected
      | _ => onStateIncoming event
  else skip

def onStateEarly : Script :=
  if event.current then
    match event.state with
    | .proceeding => (put .early).andThen (if event.received then processSdp role course else skip)
    | .completed =>
      if isSuccess event.code then
        (put .connecting).andThen (if event.received then checked role course skip else skip)
      else if event.role = .uac then callRejection event course
      else put .disconnected
    | .confirmed | .terminated =>
      if isSuccess event.code then
        let acknowledge := if event.role = .uac then sendAck role course else skip
        (put .connecting).andThen (if event.received then checked role course acknowledge else acknowledge)
      else put .disconnected
    | _ => skip
  else if event.role = .uas ∧ event.method = .cancel then skip
  else if event.role = .uas ∧ event.state = .trying ∧ (event.method = .update ∨ event.method = .prack) then
    processSdp role course
  else if event.role = .uac ∧ event.method = .update ∧ (event.state = .completed ∨ event.state = .terminated) then
    updateResponse role event course skip
  else if event.role = .uac then uacTsxResponse role event course
  else if event.method = .bye ∧ event.code < 200 ∧ event.received then respondIncomingBye course
  else skip

/-- The transactions other than the initial INVITE's, which CONNECTING and CONFIRMED treat alike. -/
def onEstablished : Script :=
  if event.role = .uas ∧ event.method = .bye ∧ event.code < 200 ∧ event.received then respondIncomingBye course
  else if event.role = .uac ∧ event.method = .bye ∧ (event.state = .completed ∨ event.state = .terminated) then
    byeResponse event course
  else if event.role = .uas ∧ event.state = .trying ∧ (event.method = .update ∨ event.method = .prack) then
    processSdp role course
  else if event.role = .uac ∧ event.method = .update ∧ (event.state = .completed ∨ event.state = .terminated) then
    updateResponse role event course (uacTsxResponse role event course)
  else if event.role = .uac then uacTsxResponse role event course
  else skip

def onStateConnecting : Script :=
  if event.current then
    match event.state with
    | .confirmed =>
      if isSuccess event.code then
        (if event.received then processSdp role course else skip).andThen (confirm role course)
      else skip
    | .terminated => if ¬ isSuccess event.code ∧ event.role = .uac then put .disconnected else skip
    | _ => skip
  else onEstablished role event course

def onStateConfirmed : Script :=
  if event.method = .invite then
    match event.role, event.state with
    | .uas, .trying => processSdp role course
    | .uas, .confirmed => if isSuccess event.code ∧ event.received then processSdp role course else skip
    | .uas, _ => skip
    | .uac, .calling | .uac, .proceeding => skip
    | .uac, state =>
      if state = .terminated ∧ isSuccess event.code then checked role course (sendAck role course)
      else uacTsxResponse role event course
  else onEstablished role event course

def onStateDisconnected : Script := if event.role = .uac then uacTsxResponse role event course else skip

def onTsxState : Script := fun state =>
  match state with
  | .null => onStateNull role event course state
  | .calling => onStateCalling role event course state
  | .incoming => onStateIncoming event state
  | .early => onStateEarly role event course state
  | .connecting => onStateConnecting role event course state
  | .confirmed => onStateConfirmed role event course state
  | .disconnected => onStateDisconnected role event course state

/-- `mod_inv_on_rx_request`, for an ACK of the pending INVITE. -/
def onRxAck : Script :=
  (processSdp role course).andThen fun state => if state = .connecting then confirm role course state else []

end Handlers

inductive SessionEvent
  | tsx (event : TsxEvent) (course : Outcomes)
  | ack (course : Outcomes)
  | success (course : Outcomes)
  | ended (outcome : SendOutcome)
  deriving DecidableEq

def SessionEvent.script (role : Role) : SessionEvent → Script
  | tsx event course => onTsxState role event course
  | ack course => onRxAck role course
  | success course => sendAck role course
  | ended outcome => endSession role outcome

/-- The INVITE session, as far as the reports of its state depend on it. -/
structure Session where
  role : Role
  state : InvState
  /-- `cb_called` has the bit of CALLING -/
  callingReported : Bool
  deriving DecidableEq

/-- Before its INVITE was sent a session hears only of that: the transaction starts with
    CALLING, or ends at once. -/
def Arrives (session : Session) : SessionEvent → Prop
  | .tsx event _ =>
    session.state = .null → event.state = .calling ∨ event.state = .terminated ∧ isSuccess event.code = false
  | .success _ => session.state ≠ .null
  | _ => True

instance (session : Session) : (event : SessionEvent) → Decidable (Arrives session event)
  | .tsx _ _ => inferInstanceAs (Decidable (_ → _))
  | .success _ => inferInstanceAs (Decidable (_ ≠ _))
  | .ack _ | .ended _ => instDecidableTrue

/-- A 422 restarts the session from its saved INVITE request, which only a session has that
    sent one and is not over; the code does not look. -/
def Crashes (session : Session) (event : SessionEvent) : Prop :=
  .restart ∈ event.script session.role session.state ∧ (session.role = .uas ∨ session.state = .disconnected)

instance (session : Session) (event : SessionEvent) : Decidable (Crashes session event) :=
  inferInstanceAs (Decidable (_ ∧ _))

def Session.apply (session : Session) : Change → Session
  | .set state =>
    { session with state, callingReported := session.callingReported || state == .calling }
  | .restart => { session with state := .null }

def Session.reports (session : Session) : Change → Bool
  | .set state => !(state == .calling && session.callingReported)
  | .restart => false

end TiSIP.Pjsip
