import TiSIP.Dispatch.PjSIPDispatch
import TiSIP.Pjsua.CallInfo

namespace TiSIP.Module

open Foundation Foundation.NSNumber Dispatch Pjsua

structure Event where
  name : String
  fields : NSDictionary
  deriving DecidableEq

/-- The answers the library gives to the queries an observer makes while it runs. -/
structure LibraryView where
  callGetInfo : Int → CallInfo
  accGetInfo : Int → AccInfo

/-- An NSNumber argument from JavaScript: the object's address, and the number it holds. -/
structure NumberArgument where
  address : BitVec 64
  number : NSNumber

def notifGetInt (conversion : IntConversion) (userInfo : NSDictionary) (key : String) : Int :=
  match objectForKey userInfo key with
  | some (.number value) => value.intValue conversion
  -- A message to nil answers zero.
  | _ => 0

def notifGetBool (conversion : IntConversion) (userInfo : NSDictionary) (key : String) : Bool :=
  notifGetInt conversion userInfo key != 0

def callStatus : InvState → String
  | .null => "READY"
  | .calling => "CALLING"
  | .incoming => "CALLING"
  | .early => "CONNECTING"
  | .connecting => "CONNECTING"
  | .confirmed => "CONNECTED"
  | .disconnected => "DISCONNECTED"

def isStatusInClass (code range : Int) : Bool := range ≤ code && code < range + 100

def accStatus (info : AccInfo) : String :=
  if info.regLastErr ≠ 0 then "INVALID"
  else if info.status = 0 then "OFFLINE"
  else if isStatusInClass info.status 100 || isStatusInClass info.status 300 then "CONNECTING"
  else if isStatusInClass info.status 200 then
    if 0 < info.expires then "CONNECTED" else "DISCONNECTED"
  else "INVALID"

section Observers

variable (conversion : IntConversion) (decoder : BytewiseDecoder) (view : LibraryView)

def callStateDidChange (userInfo : NSDictionary) : Event :=
  let callId := notifGetInt conversion userInfo PJSIPCallIdKey
  let accountId := notifGetInt conversion userInfo PJSIPAccountIdKey
  { name := "CALL." ++ callStatus (view.callGetInfo callId).state
    fields := dictionaryWithObjectsAndKeys
      [(some (numberObject accountId), "accountId"), (some (numberObject callId), "callId")] }

def didReceiveIncomingCall (userInfo : NSDictionary) : Except Fault Event := do
  let accountId := notifGetInt conversion userInfo PJSIPAccountIdKey
  let callId := notifGetInt conversion userInfo PJSIPCallIdKey
  let ci := view.callGetInfo callId
  let remoteContact ← PJUtil.stringWithPJString decoder ci.remoteContact
  let remoteInfo ← PJUtil.stringWithPJString decoder ci.remoteInfo
  let sender ← PJUtil.stringWithPJString decoder ci.remoteInfo
  let remoteId ← PJUtil.stringWithPJString decoder ci.callId
  return {
    name := "CALL.INCOMING"
    fields := dictionaryWithObjectsAndKeys
      [(some (numberObject accountId), "accountId"), (some (numberObject callId), "callId"),
        (sender.map .string, "from"), (remoteContact.map .string, "remote_contact"),
        (remoteInfo.map .string, "remote_info"), (remoteId.map .string, "remote_id")] }

def registrationDidStart (userInfo : NSDictionary) : Event :=
  let accountId := notifGetInt conversion userInfo PJSIPAccountIdKey
  let renew := notifGetBool conversion userInfo PJSIPRenewKey
  { name := "REGISTRATION." ++ if renew then "CONNECTING" else "DISCONNECTING"
    fields := dictionaryWithObjectsAndKeys [(some (numberObject accountId), "accountId")] }

def registrationStateDidChange (userInfo : NSDictionary) : Event :=
  let accountId := notifGetInt conversion userInfo PJSIPAccountIdKey
  { name := "REGISTRATION." ++ accStatus (view.accGetInfo accountId)
    fields := dictionaryWithObjectsAndKeys [(some (numberObject accountId), "accountId")] }

def didReceiveMWI (userInfo : NSDictionary) : Event :=
  let accountId := notifGetInt conversion userInfo PJSIPAccountIdKey
  let body := objectForKey userInfo PJSIPMwiInfoContentKey
  let mimeType := objectForKey userInfo PJSIPMwiInfoMimeTypeKey
  { name := "MWI"
    fields := dictionaryWithObjectsAndKeys
      [(some (numberObject accountId), "accountId"), (mimeType, "mimeType"), (body, "body")] }

def didReceiveMessage (userInfo : NSDictionary) : Event :=
  let accountId := notifGetInt conversion userInfo PJSIPAccountIdKey
  let sender := objectForKey userInfo PJSIPPagerFromKey
  let recipient := objectForKey userInfo PJSIPPagerToKey
  let contact := objectForKey userInfo PJSIPPagerContactKey
  let mimeType := objectForKey userInfo PJSIPPagerMimeTypeKey
  let body := objectForKey userInfo PJSIPPagerBodyKey
  { name := "MESSAGE.INCOMING"
    fields := dictionaryWithObjectsAndKeys
      [(some (numberObject accountId), "accountId"), (mimeType, "mimeType"), (body, "content"),
        (sender, "from"), (recipient, "to"), (contact, "contact")] }

def didReceiveMessageStatusUpdate (userInfo : NSDictionary) : Event :=
  let accountId := notifGetInt conversion userInfo PJSIPAccountIdKey
  -- The dispatcher stores the recipient under `PJSIPPagerStatusToKey`.
  let recipient := objectForKey userInfo PJSIPPagerToKey
  let reason := objectForKey userInfo PJSIPPagerStatusReasonKey
  let status := numberObject (notifGetInt conversion userInfo PJSIPPagerStatusCodeKey)
  { name := "MESSAGE.STATUS"
    fields := dictionaryWithObjectsAndKeys
      [(some (numberObject accountId), "accountId"), (reason, "reason"), (some status, "status"),
        (recipient, "to")] }

def observe (notification : NSNotification) : Except Fault (List Event) :=
  match notification.name with
  | .callStateDidChange => .ok [callStateDidChange conversion view notification.userInfo]
  | .incomingCall => do return [← didReceiveIncomingCall conversion decoder view notification.userInfo]
  | .registrationDidStart => .ok [registrationDidStart conversion notification.userInfo]
  | .registrationStateDidChange => .ok [registrationStateDidChange conversion view notification.userInfo]
  | .mwi => .ok [didReceiveMWI conversion notification.userInfo]
  | .pager => .ok [didReceiveMessage conversion notification.userInfo]
  | .pagerUpdate => .ok [didReceiveMessageStatusUpdate conversion notification.userInfo]
  | .callMediaStateDidChange => .ok []

def observeAll : List NSNotification → Except Fault (List Event)
  | [] => .ok []
  | notification :: rest => do
    let first ← observe conversion decoder view notification
    let others ← observeAll rest
    return first ++ others

end Observers

-- `[NSNumber numberWithInt:args]` is given the pointer itself, cut to an int.
def mutedEvent (name : String) (args : NumberArgument) : Event where
  name := name
  fields := dictionaryWithObjectsAndKeys
    [(some (numberObject (args.address.setWidth 32).toInt), "callId")]

def muteCall (args : NumberArgument) : Event := mutedEvent "MUTED.YES" args

def unmuteCall (args : NumberArgument) : Event := mutedEvent "MUTED.NO" args

end TiSIP.Module
