import TiSIP.Pjsua.Im

namespace TiSIP.Dispatch

open Foundation Pjsua

inductive NotificationName
  | registrationDidStart
  | registrationStateDidChange
  | incomingCall
  | callMediaStateDidChange
  | callStateDidChange
  | pager
  | pagerUpdate
  | mwi
  deriving DecidableEq

structure NSNotification where
  name : NotificationName
  userInfo : NSDictionary
  deriving DecidableEq

def PJSIPAccountIdKey : String := "PJSIPAccountIdKey"
def PJSIPRenewKey : String := "PJSIPRenewKey"
def PJSIPCallIdKey : String := "PJSIPCallIdKey"
def PJSIPDataKey : String := "PJSIPDataKey"
def PJSIPMwiInfoMimeTypeKey : String := "PJSIPMwiInfoMimeTypeKey"
def PJSIPMwiInfoContentKey : String := "PJSIPMwiInfoContentKey"
def PJSIPPagerFromKey : String := "PJSIPPagerFromKey"
def PJSIPPagerToKey : String := "PJSIPPagerToKey"
def PJSIPPagerContactKey : String := "PJSIPPagerContactKey"
def PJSIPPagerMimeTypeKey : String := "PJSIPPagerMimeTypeKey"
def PJSIPPagerBodyKey : String := "PJSIPPagerBodyKey"
def PJSIPPagerStatusCodeKey : String := "PJSIPPagerStatusCodeKey"
def PJSIPPagerStatusToKey : String := "PJSIPPagerStatusToKey"
def PJSIPPagerStatusReasonKey : String := "PJSIPPagerStatusReasonKey"

namespace PjSIPDispatch

def dispatchRegistrationStarted (accountId : Int) (renew : Bool) : NSNotification where
  name := .registrationDidStart
  userInfo := dictionaryWithObjectsAndKeys
    [(some (numberObject accountId), PJSIPAccountIdKey),
      (some (numberObject (if renew then 1 else 0)), PJSIPRenewKey)]

def dispatchRegistrationState (accountId : Int) : NSNotification where
  name := .registrationStateDidChange
  userInfo := [(PJSIPAccountIdKey, numberObject accountId)]

def dispatchIncomingCall (accountId callId : Int) (data : Nat) : NSNotification where
  name := .incomingCall
  userInfo := dictionaryWithObjectsAndKeys
    [(some (numberObject accountId), PJSIPAccountIdKey),
      (some (numberObject callId), PJSIPCallIdKey),
      (some (.pointer data), PJSIPDataKey)]

def dispatchCallState (callId : Int) (event : Nat) : NSNotification where
  name := .callStateDidChange
  userInfo := dictionaryWithObjectsAndKeys
    [(some (numberObject callId), PJSIPCallIdKey),
      (some (.pointer event), PJSIPDataKey)]

def mediaStateNotification (callId : Int) : NSNotification where
  name := .callMediaStateDidChange
  userInfo := [(PJSIPCallIdKey, numberObject callId)]

def dispatchPagerInfo (decoder : BytewiseDecoder) (call : PagerCall) (accountId : Int) :
    Except Fault (List NSNotification) := do
  let sender ← PJUtil.copied decoder call.sender
  let recipient ← PJUtil.copied decoder call.recipient
  let contact ← PJUtil.copied decoder call.contact
  let mimeType ← PJUtil.copied decoder call.mimeType
  let body ← PJUtil.copied decoder call.body
  let info := dictionaryWithObjectsAndKeys
    [(some (numberObject accountId), PJSIPAccountIdKey),
      (some (.string sender), PJSIPPagerFromKey),
      (some (.string recipient), PJSIPPagerToKey),
      (some (.string contact), PJSIPPagerContactKey),
      (some (.string mimeType), PJSIPPagerMimeTypeKey),
      (some (.string body), PJSIPPagerBodyKey)]
  return [{ name := .pager, userInfo := info }]

def dispatchPagerStatus (decoder : BytewiseDecoder) (recipient : PjStr) (status : Int) (reason : PjStr)
    (accountId : Int) : Except Fault (List NSNotification) := do
  let sentTo ← PJUtil.copied decoder recipient
  let text ← PJUtil.copied decoder reason
  let info := dictionaryWithObjectsAndKeys
    [(some (numberObject accountId), PJSIPAccountIdKey),
      (some (numberObject status), PJSIPPagerStatusCodeKey),
      (some (.string sentTo), PJSIPPagerStatusToKey),
      (some (.string text), PJSIPPagerStatusReasonKey)]
  return [{ name := .pagerUpdate, userInfo := info }]

/-- `pj_str` over `mime_type_c`, which holds nothing unless there was a Content-Type. -/
def mwiMimeType (ctype : Option MediaType) : Except Fault PjStr :=
  match ctype with
  | none => .error .uninitialised
  | some media =>
    let written := snprintf 80 (printMediaType media)
    .ok { ptr := written, slen := (BytewiseDecoder.upToNul written).length }

def dispatchMwiInfo (decoder : BytewiseDecoder) (accountId : Int) (msg : SipMessage) :
    Except Fault (List NSNotification) := do
  -- The `body = pj_str("")` of a message without a body is overwritten by the line that follows.
  let body ←
    match msg.body with
    | none => .error .nullBody
    | some body => .ok (PjStr.ofBytes body.data)
  if body.slen = 0 then return []
  let mimeType ← mwiMimeType msg.ctype
  let bodyContent ← PJUtil.stringWithPJString decoder body
  let mimeContent ← PJUtil.stringWithPJString decoder mimeType
  let content ← stringWithString bodyContent
  let mime ← stringWithString mimeContent
  let info := dictionaryWithObjectsAndKeys
    [(some (numberObject accountId), PJSIPAccountIdKey),
      (some (.string content), PJSIPMwiInfoContentKey),
      (some (.string mime), PJSIPMwiInfoMimeTypeKey)]
  return [{ name := .mwi, userInfo := info }]

end PjSIPDispatch

/-- What the two parameters `onPager` declares beyond those of `on_pager` happen to read. -/
structure Leftover where
  rdata : Nat
  accId : Int32

abbrev Posted := Except Fault (List NSNotification)

def onRegistrationStarted (accountId : Int) (renew : Bool) : Posted :=
  .ok [PjSIPDispatch.dispatchRegistrationStarted accountId renew]

def onRegistrationState (accountId : Int) : Posted :=
  .ok [PjSIPDispatch.dispatchRegistrationState accountId]

-- The answer it sends before it posts has no part in what is posted.
def onIncomingCall (accountId callId : Int) (rdata : Nat) : Posted :=
  .ok [PjSIPDispatch.dispatchIncomingCall accountId callId rdata]

def onCallMediaState (callId : Int) : Posted :=
  .ok [PjSIPDispatch.mediaStateNotification callId]

def onCallState (callId : Int) (event : Nat) : Posted :=
  .ok [PjSIPDispatch.dispatchCallState callId event]

def onMwiInfo (decoder : BytewiseDecoder) (accountId : Int) (msg : SipMessage) : Posted :=
  PjSIPDispatch.dispatchMwiInfo decoder accountId msg

def onPager (decoder : BytewiseDecoder) (call : PagerCall) (leftover : Leftover) : Posted :=
  PjSIPDispatch.dispatchPagerInfo decoder call leftover.accId.toInt

def onPagerStatus (decoder : BytewiseDecoder) (recipient : PjStr) (status : Int) (reason : PjStr)
    (accId : Int) : Posted :=
  PjSIPDispatch.dispatchPagerStatus decoder recipient status reason accId

structure PjsuaCallback where
  onRegStarted : Int → Bool → Posted
  onRegState : Int → Posted
  onIncomingCall : Int → Int → Nat → Posted
  onCallMediaState : Int → Posted
  onCallState : Int → Nat → Posted
  onMwiInfo : Int → SipMessage → Posted
  onPager : PagerCall → Posted
  onPagerStatus2 : PjStr → Int → PjStr → Int → Posted

def configureCallbacksForAgent (decoder : BytewiseDecoder) (leftover : Leftover) : PjsuaCallback where
  onRegStarted := onRegistrationStarted
  onRegState := onRegistrationState
  onIncomingCall := onIncomingCall
  onCallMediaState := onCallMediaState
  onCallState := onCallState
  onMwiInfo := onMwiInfo decoder
  -- A function of eight parameters in a slot that is called with six.
  onPager call := onPager decoder call leftover
  onPagerStatus2 := onPagerStatus decoder

end TiSIP.Dispatch
