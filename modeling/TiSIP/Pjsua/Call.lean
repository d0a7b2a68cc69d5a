import TiSIP.Pjsua.Im
import TiSIP.Pjsua.Media

namespace TiSIP.Pjsua

open Dispatch

abbrev maxCalls : Nat := 4

instance : NeZero maxCalls := ⟨Nat.succ_ne_zero _⟩

structure Dialog where
  remoteInfo : List UInt8
  remoteContact : Option PrintedUri
  callId : List UInt8
  deriving DecidableEq

structure InvSession where
  state : InvState
  dlg : Dialog
  deriving DecidableEq

/-- The signalling part of `pjsua_call`; `asyncDlg` is `async_call.dlg`. -/
structure CallSession where
  accId : Int
  inv : Option InvSession
  asyncDlg : Option Dialog
  lastCode : Nat
  hangingUp : Bool
  deriving DecidableEq

def CallSession.reset : CallSession where
  accId := 0
  inv := none
  asyncDlg := none
  lastCode := 0
  hangingUp := false

def CallSession.dlg (session : CallSession) : Option Dialog :=
  match session.inv with
  | some inv => some inv.dlg
  | none => session.asyncDlg

def CallSession.infoState (session : CallSession) : InvState :=
  match session.inv with
  | some inv => inv.state
  | none => if session.asyncDlg.isSome && session.lastCode == 0 then .null else .disconnected

structure Call where
  session : CallSession
  channel : MediaChannel

def Call.reset : Call := { session := .reset, channel := .reset }

def Call.Live (call : Call) : Prop := call.session.dlg.isSome

instance (call : Call) : Decidable call.Live := inferInstanceAs (Decidable (_ = true))

structure CallVar where
  conf : Conf
  calls : Fin maxCalls → Call

def startConf : Conf where
  ports := SlotTable.empty.put 0 { listenerSlots := [] }
  distinct := by
    intro slot port held
    rcases SlotTable.put_eq_some.mp held with ⟨_, rfl⟩ | ⟨_, impossible⟩
    · exact List.nodup_nil
    · cases impossible
  grounded := by
    intro slot port held listener member
    rcases SlotTable.put_eq_some.mp held with ⟨_, rfl⟩ | ⟨_, impossible⟩
    · cases member
    · cases impossible

def startVar : CallVar := { conf := startConf, calls := fun _ => .reset }

def esessionterminated : PjError := .other 171140

def infoBuffer (text : List UInt8) : PjStr := .ofBytes (text.take 128)

def infoContact : Option PrintedUri → PjStr
  | some (.printed text) => .ofBytes text
  | _ => { ptr := [], slen := 0 }

def Call.audioInfo (call : Call) : MediaStatus × Int :=
  match call.channel.audioIdx with
  | none => (.none, 0)
  | some mi => ((call.channel.media mi).state, (call.channel.media mi).confSlot)

/-- `pjsua_call_get_info`; `leftover` is what the caller's structure holds before. -/
def callGetInfo (var : CallVar) (callId : Int) (leftover : CallInfo) : Except PjError Unit × CallInfo :=
  match SlotTable.slotOf maxCalls callId with
  | none => (.error .einval, leftover)
  | some index =>
    let call := var.calls index
    match call.session.dlg with
    | none => (.error esessionterminated, .zero)
    | some dlg =>
      (.ok (),
        { accId := call.session.accId
          state := call.session.infoState
          mediaStatus := call.audioInfo.1
          confSlot := call.audioInfo.2
          remoteInfo := infoBuffer dlg.remoteInfo
          remoteContact := infoContact dlg.remoteContact
          callId := infoBuffer dlg.callId })

def setCall (var : CallVar) (index : Fin maxCalls) (call : Call) : CallVar :=
  { var with calls := Function.update var.calls index call }

def setPlane (var : CallVar) (index : Fin maxCalls) (plane : MediaPlane) : CallVar where
  conf := plane.conf
  calls := Function.update var.calls index { var.calls index with channel := plane.channel }

def mediaPlane (var : CallVar) (index : Fin maxCalls) : MediaPlane :=
  { conf := var.conf, channel := (var.calls index).channel }

/-- A new offer, ours or the peer's. -/
def callOffered (var : CallVar) (index : Fin maxCalls) (setup : MediaSetup) : CallVar :=
  setCall var index { var.calls index with channel := (mediaChannelInit (var.calls index).channel setup).1 }

/-- `pjsua_call_on_media_update`, with whether `on_call_media_state` is called. -/
def callOnMediaUpdate (var : CallVar) (index : Fin maxCalls) (negotiated : Option SdpPair) : CallVar × Bool :=
  let call := var.calls index
  if call.session.hangingUp then (var, false)
  else
    match negotiated with
    | none => (setCall var index { call with channel := mediaProvCleanUp call.channel }, false)
    | some sdp =>
      let (plane, status) := mediaChannelUpdate (mediaPlane var index) sdp
      let confirmed := call.session.infoState == .confirmed
      (setPlane var index plane, status == .success || status == .noMedia && confirmed)

def callEnd (var : CallVar) (index : Fin maxCalls) : CallVar :=
  let plane := stopMediaSession (mediaPlane var index)
  setCall { var with conf := plane.conf } index .reset

/-- How `pjsua_call_hangup` goes on from a call that exists; `ended` tells that the session
    was terminated and the call reset before it returned. -/
inductive HangupOutcome
  | notAcquired
  | endSessionFailed (error : PjError)
  | sendFailed (error : PjError) (ended : Bool)
  | sent (ended : Bool)
  | pending
  deriving DecidableEq

def setHangingUp (var : CallVar) (index : Fin maxCalls) (hangingUp : Bool) : CallVar :=
  let call := var.calls index
  setCall var index { call with session := { call.session with hangingUp } }

def etimedout : PjError := .other 70009

def callHangup (var : CallVar) (callId : Int) (outcome : HangupOutcome) : Except PjError Unit × CallVar :=
  match SlotTable.slotOf maxCalls callId with
  | none => (.error .einval, var)
  | some index =>
    if ¬ (var.calls index).Live then (.error esessionterminated, var)
    else
      match outcome with
      | .notAcquired => (.error etimedout, var)
      | .endSessionFailed error => (.error error, setHangingUp var index false)
      | .sendFailed error true => (.error error, callEnd var index)
      | .sendFailed error false => (.error error, setHangingUp var index false)
      | .sent true => (.ok (), callEnd var index)
      | .sent false => (.ok (), setHangingUp var index true)
      | .pending => (.ok (), setHangingUp var index true)

section MediaUpdate

variable {var : CallVar} {index : Fin maxCalls}

theorem callOnMediaUpdate_hangingUp {negotiated : Option SdpPair} (up : (var.calls index).session.hangingUp = true) :
    callOnMediaUpdate var index negotiated = (var, false) := by
  simp [callOnMediaUpdate, up]

theorem callOnMediaUpdate_failed (quiet : (var.calls index).session.hangingUp = false) :
    callOnMediaUpdate var index none =
      (setCall var index { var.calls index with channel := mediaProvCleanUp (var.calls index).channel }, false) := by
  simp [callOnMediaUpdate, quiet]

theorem callOnMediaUpdate_succeeded {sdp : SdpPair} (quiet : (var.calls index).session.hangingUp = false) :
    callOnMediaUpdate var index (some sdp) =
      (setPlane var index (mediaChannelUpdate (mediaPlane var index) sdp).1,
        (mediaChannelUpdate (mediaPlane var index) sdp).2 == .success ||
          (mediaChannelUpdate (mediaPlane var index) sdp).2 == .noMedia &&
            (var.calls index).session.infoState == .confirmed) := by
  simp [callOnMediaUpdate, quiet]

end MediaUpdate

@[simp]
theorem setCall_own (var : CallVar) (index : Fin maxCalls) (call : Call) : (setCall var index call).calls index = call :=
  Function.update_self _ _ _

@[simp]
theorem setCall_other {var : CallVar} {index other : Fin maxCalls} {call : Call} (different : other ≠ index) :
    (setCall var index call).calls other = var.calls other :=
  Function.update_of_ne different _ _

@[simp]
theorem setCall_conf (var : CallVar) (index : Fin maxCalls) (call : Call) : (setCall var index call).conf = var.conf :=
  rfl

@[simp]
theorem callOffered_own (var : CallVar) (index : Fin maxCalls) (setup : MediaSetup) :
    (callOffered var index setup).calls index =
      { var.calls index with channel := (mediaChannelInit (var.calls index).channel setup).1 } :=
  setCall_own _ _ _

@[simp]
theorem setPlane_own (var : CallVar) (index : Fin maxCalls) (plane : MediaPlane) :
    (setPlane var index plane).calls index = { var.calls index with channel := plane.channel } :=
  Function.update_self _ _ _

@[simp]
theorem callEnd_own (var : CallVar) (index : Fin maxCalls) : (callEnd var index).calls index = .reset :=
  Function.update_self _ _ _

theorem callGetInfo_live {var : CallVar} {index : Fin maxCalls} (leftover : CallInfo) (live : (var.calls index).Live) :
    (callGetInfo var index.val leftover).2.mediaStatus = (var.calls index).audioInfo.1 ∧
      (callGetInfo var index.val leftover).2.confSlot = (var.calls index).audioInfo.2 := by
  unfold callGetInfo
  rw [SlotTable.slotOf_val]
  dsimp only
  unfold Call.Live at live
  split
  · rename_i gone
    rw [gone] at live
    cases live
  · exact ⟨rfl, rfl⟩

theorem callGetInfo_dead {var : CallVar} {index : Fin maxCalls} (leftover : CallInfo) (dead : ¬ (var.calls index).Live) :
    (callGetInfo var index.val leftover).2 = .zero := by
  unfold callGetInfo
  rw [SlotTable.slotOf_val]
  dsimp only
  unfold Call.Live at dead
  split
  · rfl
  · rename_i found
    rw [found] at dead
    exact absurd rfl dead

theorem callGetInfo_outside {var : CallVar} {callId : Int} (leftover : CallInfo)
    (outside : SlotTable.slotOf maxCalls callId = none) : (callGetInfo var callId leftover).2 = leftover := by
  unfold callGetInfo
  rw [outside]

end TiSIP.Pjsua
