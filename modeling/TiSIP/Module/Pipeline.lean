import TiSIP.Module.Observers

namespace TiSIP.Module

open Foundation Foundation.NSNumber Dispatch Pjsua

section Pager

variable (conversion : IntConversion) (decoder : BytewiseDecoder) (view : LibraryView)

structure PagerTexts where
  sender : String
  recipient : String
  contact : String
  mimeType : String
  body : String

structure Decodes (call : PagerCall) (texts : PagerTexts) : Prop where
  sender : PJUtil.copied decoder call.sender = .ok texts.sender
  recipient : PJUtil.copied decoder call.recipient = .ok texts.recipient
  contact : PJUtil.copied decoder call.contact = .ok texts.contact
  mimeType : PJUtil.copied decoder call.mimeType = .ok texts.mimeType
  body : PJUtil.copied decoder call.body = .ok texts.body

def receivePager (call : PagerCall) (leftover : Leftover) : Except Fault (List Event) := do
  observeAll conversion decoder view (← onPager decoder call leftover)

theorem receivePager_eq {call : PagerCall} {texts : PagerTexts} (leftover : Leftover)
    (decodes : Decodes decoder call texts) :
    receivePager conversion decoder view call leftover = .ok [{
      name := "MESSAGE.INCOMING"
      fields :=
        [("accountId", numberObject ((numberWithInt leftover.accId.toInt).intValue conversion)),
          ("mimeType", .string texts.mimeType), ("content", .string texts.body),
          ("from", .string texts.sender), ("to", .string texts.recipient),
          ("contact", .string texts.contact)] }] := by
  simp [receivePager, onPager, PjSIPDispatch.dispatchPagerInfo, decodes.sender, decodes.recipient, decodes.contact,
    decodes.mimeType, decodes.body, bind, Except.bind, pure, Except.pure, observeAll, observe, didReceiveMessage,
    dictionaryWithObjectsAndKeys, objectForKey, notifGetInt, numberObject, List.lookup_cons, PJSIPAccountIdKey,
    PJSIPPagerFromKey, PJSIPPagerToKey, PJSIPPagerContactKey, PJSIPPagerMimeTypeKey, PJSIPPagerBodyKey]

end Pager

end TiSIP.Module
