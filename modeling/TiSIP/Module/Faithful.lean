import TiSIP.Dispatch.RemoteMessages
import TiSIP.Module.Pipeline

namespace TiSIP.Module

open Foundation Foundation.NSNumber Dispatch Pjsua

structure CodecText where
  text : String
  plain : BytewiseDecoder.PlainAscii text.toList

namespace CodecText

def pjStr (string : CodecText) : PjStr := .ofBytes (BytewiseDecoder.utf8 string.text.toList)

def object (string : CodecText) : NSObject := .string string.text

end CodecText

structure CallFacts where
  accId : Int32
  state : InvState
  mediaStatus : MediaStatus
  confSlot : Int32
  remoteInfo : CodecText
  remoteContact : CodecText
  callId : CodecText

structure LibraryFacts where
  calls : Int → CallFacts
  accounts : Int → AccInfo

def LibraryFacts.view (facts : LibraryFacts) : LibraryView where
  callGetInfo id :=
    { accId := (facts.calls id).accId.toInt
      state := (facts.calls id).state
      mediaStatus := (facts.calls id).mediaStatus
      confSlot := (facts.calls id).confSlot.toInt
      remoteInfo := (facts.calls id).remoteInfo.pjStr
      remoteContact := (facts.calls id).remoteContact.pjStr
      callId := (facts.calls id).callId.pjStr }
  accGetInfo := facts.accounts

structure PagerFacts where
  callId : Int32
  accId : Int32
  sender : CodecText
  recipient : CodecText
  contact : CodecText
  mimeType : CodecText
  body : CodecText

structure MwiFacts where
  accId : Int32
  type : CodecText
  subtype : CodecText
  body : CodecText
  nonempty : body.text.toList ≠ []

inductive BridgedEvent
  | registrationStarted (accId : Int32) (renew : Bool)
  | registrationState (accId : Int32)
  | incomingCall (accId callId : Int32) (rdata : Nat)
  | callState (callId : Int32) (event : Nat)
  | pager (facts : PagerFacts) (leftover : Leftover)
  | pagerStatus (accId status : Int32) (recipient reason : CodecText)
  | mwi (facts : MwiFacts)
  | muted (args : NumberArgument)
  | unmuted (args : NumberArgument)

def PagerFacts.call (facts : PagerFacts) : PagerCall where
  callId := facts.callId.toInt
  sender := facts.sender.pjStr
  recipient := facts.recipient.pjStr
  contact := facts.contact.pjStr
  mimeType := facts.mimeType.pjStr
  body := facts.body.pjStr

def CodecText.bytes (string : CodecText) : List UInt8 := BytewiseDecoder.utf8 string.text.toList

def MwiFacts.message (facts : MwiFacts) : SipMessage where
  fromUri := .tooLong
  toUri := .tooLong
  contact := none
  ctype := some { type := facts.type.bytes, subtype := facts.subtype.bytes }
  body := some
    { contentType := { type := facts.type.bytes, subtype := facts.subtype.bytes }, data := facts.body.bytes }
  parsed := by
    intro made held
    cases held
    exact ⟨rfl, fun empty => absurd empty (BytewiseDecoder.utf8_ne_nil facts.nonempty)⟩

def MwiFacts.mimeText (facts : MwiFacts) : List Char :=
  facts.type.text.toList ++ '/' :: facts.subtype.text.toList

section Bridge

variable (conversion : IntConversion) (decoder : BytewiseDecoder) (facts : LibraryFacts)

def posted (callbacks : PjsuaCallback) : BridgedEvent → Posted
  | .registrationStarted accId renew => callbacks.onRegStarted accId.toInt renew
  | .registrationState accId => callbacks.onRegState accId.toInt
  | .incomingCall accId callId rdata => callbacks.onIncomingCall accId.toInt callId.toInt rdata
  | .callState callId event => callbacks.onCallState callId.toInt event
  | .pager pager _ => callbacks.onPager pager.call
  | .pagerStatus accId status recipient reason =>
    callbacks.onPagerStatus2 recipient.pjStr status.toInt reason.pjStr accId.toInt
  | .mwi mwi => callbacks.onMwiInfo mwi.accId.toInt mwi.message
  | .muted _ => .ok []
  | .unmuted _ => .ok []

def BridgedEvent.leftover : BridgedEvent → Leftover
  | .pager _ leftover => leftover
  | _ => { rdata := 0, accId := 0 }

def bridge (event : BridgedEvent) : Except Fault (List Event) := do
  let notifications ← posted (configureCallbacksForAgent decoder event.leftover) event
  let observed ← observeAll conversion decoder facts.view notifications
  match event with
  | .muted args => return [muteCall args]
  | .unmuted args => return [unmuteCall args]
  | _ => return observed

/-- The fields an event is documented with, at the values the library or the caller supplied. -/
def documented : BridgedEvent → NSDictionary
  | .registrationStarted accId _ => [("accountId", numberObject accId.toInt)]
  | .registrationState accId => [("accountId", numberObject accId.toInt)]
  | .incomingCall accId callId _ =>
    [("accountId", numberObject accId.toInt), ("callId", numberObject callId.toInt),
      ("from", (facts.calls callId.toInt).remoteInfo.object),
      ("remote_contact", (facts.calls callId.toInt).remoteContact.object),
      ("remote_info", (facts.calls callId.toInt).remoteInfo.object),
      ("remote_id", (facts.calls callId.toInt).callId.object)]
  | .callState callId _ =>
    [("accountId", numberObject (facts.calls callId.toInt).accId.toInt), ("callId", numberObject callId.toInt)]
  | .pager pager _ =>
    [("accountId", numberObject pager.accId.toInt), ("mimeType", pager.mimeType.object),
      ("content", pager.body.object), ("from", pager.sender.object), ("to", pager.recipient.object),
      ("contact", pager.contact.object)]
  | .pagerStatus accId status recipient reason =>
    [("accountId", numberObject accId.toInt), ("reason", reason.object), ("status", numberObject status.toInt),
      ("to", recipient.object)]
  | .mwi mwi =>
    [("accountId", numberObject mwi.accId.toInt), ("mimeType", .string (String.ofList mwi.mimeText)),
      ("body", mwi.body.object)]
  | .muted args => [("callId", .number args.number)]
  | .unmuted args => [("callId", .number args.number)]

def Faithful (event : BridgedEvent) : Prop :=
  ∃ fired, bridge conversion decoder facts event = .ok [fired] ∧
    ∀ field ∈ documented facts event, objectForKey fired.fields field.1 = some field.2

def truncatedAddress (args : NumberArgument) : NSNumber := numberWithInt (args.address.setWidth 32).toInt

def FaithfulWhen : BridgedEvent → Prop
  | .callState callId _ => (facts.calls callId.toInt).accId = 0
  | .pager pager leftover => leftover.accId = pager.accId
  | .pagerStatus .. => False
  | .mwi mwi => mwi.mimeText.length ≤ 79
  | .muted args => args.number = truncatedAddress args
  | .unmuted args => args.number = truncatedAddress args
  | _ => True

theorem CodecText.decoded (string : CodecText) :
    PJUtil.stringWithPJString decoder string.pjStr = .ok (some string.text) := by
  have decoded := (initWithBytes_eq_some_iff decoder _ _).mpr (decoder.decode_plain string.plain)
  rw [PJUtil.stringWithPJString, CodecText.pjStr, PjStr.read_ofBytes, Except.map, decoded]

theorem CodecText.copied (string : CodecText) : PJUtil.copied decoder string.pjStr = .ok string.text := by
  rw [PJUtil.copied, string.decoded decoder]
  rfl

theorem numberObject_int32_eq_iff (left right : Int32) :
    numberObject left.toInt = numberObject right.toInt ↔ left = right := by
  constructor
  · intro same
    have numbers := NSObject.number.inj same
    exact Int32.toInt_inj.mp (numberWithInt_injective numbers)
  · intro same
    rw [same]

theorem faithful_iff_of_fired {event : BridgedEvent} {fired : Event}
    (fires : bridge conversion decoder facts event = .ok [fired]) :
    Faithful conversion decoder facts event ↔
      ∀ field ∈ documented facts event, objectForKey fired.fields field.1 = some field.2 := by
  constructor
  · intro faithful
    obtain ⟨other, same, carries⟩ := faithful
    rw [fires] at same
    cases same
    exact carries
  · intro carries
    exact ⟨fired, fires, carries⟩

theorem registrationStarted_fires (accId : Int32) (renew : Bool) :
    bridge conversion decoder facts (.registrationStarted accId renew) = .ok [{
      name := "REGISTRATION." ++ if renew then "CONNECTING" else "DISCONNECTING"
      fields := [("accountId", numberObject accId.toInt)] }] := by
  have flag : ((numberWithInt (if renew then 1 else 0)).intValue conversion != 0) = renew := by
    cases renew <;> rfl
  simp [bridge, posted, configureCallbacksForAgent, observeAll, observe, onRegistrationStarted,
    PjSIPDispatch.dispatchRegistrationStarted, registrationDidStart, notifGetInt,
    notifGetBool, dictionaryWithObjectsAndKeys, objectForKey, List.lookup_cons, PJSIPAccountIdKey, PJSIPRenewKey,
    numberObject, intValue_int32, flag, bind, Except.bind, pure, Except.pure]

theorem registrationState_fires (accId : Int32) :
    bridge conversion decoder facts (.registrationState accId) = .ok [{
      name := "REGISTRATION." ++ accStatus (facts.accounts accId.toInt)
      fields := [("accountId", numberObject accId.toInt)] }] := by
  simp [bridge, posted, configureCallbacksForAgent, observeAll, observe, onRegistrationState,
    PjSIPDispatch.dispatchRegistrationState, registrationStateDidChange,
    notifGetInt, dictionaryWithObjectsAndKeys, objectForKey, PJSIPAccountIdKey, numberObject,
    intValue_int32, LibraryFacts.view, bind, Except.bind, pure, Except.pure]

theorem incomingCall_fires (accId callId : Int32) (rdata : Nat) :
    bridge conversion decoder facts (.incomingCall accId callId rdata) = .ok [{
      name := "CALL.INCOMING"
      fields :=
        [("accountId", numberObject accId.toInt), ("callId", numberObject callId.toInt),
          ("from", (facts.calls callId.toInt).remoteInfo.object),
          ("remote_contact", (facts.calls callId.toInt).remoteContact.object),
          ("remote_info", (facts.calls callId.toInt).remoteInfo.object),
          ("remote_id", (facts.calls callId.toInt).callId.object)] }] := by
  simp [bridge, posted, configureCallbacksForAgent, observeAll, observe, onIncomingCall,
    PjSIPDispatch.dispatchIncomingCall, didReceiveIncomingCall, notifGetInt,
    dictionaryWithObjectsAndKeys, objectForKey, List.lookup_cons, PJSIPAccountIdKey, PJSIPCallIdKey, PJSIPDataKey,
    numberObject, intValue_int32, LibraryFacts.view, CodecText.decoded, CodecText.object, bind, Except.bind,
    pure, Except.pure]

-- No account id is in the notification of a call state, so the observer reads zero.
theorem callState_fires (callId : Int32) (event : Nat) :
    bridge conversion decoder facts (.callState callId event) = .ok [{
      name := "CALL." ++ callStatus (facts.calls callId.toInt).state
      fields := [("accountId", numberObject (0 : Int32).toInt), ("callId", numberObject callId.toInt)] }] := by
  simp [bridge, posted, configureCallbacksForAgent, observeAll, observe, onCallState,
    PjSIPDispatch.dispatchCallState, callStateDidChange, notifGetInt,
    dictionaryWithObjectsAndKeys, objectForKey, List.lookup_cons, PJSIPCallIdKey, PJSIPAccountIdKey, PJSIPDataKey,
    numberObject, intValue_int32, LibraryFacts.view, bind, Except.bind, pure, Except.pure]

theorem pager_fires (pager : PagerFacts) (leftover : Leftover) :
    bridge conversion decoder facts (.pager pager leftover) = .ok [{
      name := "MESSAGE.INCOMING"
      fields :=
        [("accountId", numberObject leftover.accId.toInt), ("mimeType", pager.mimeType.object),
          ("content", pager.body.object), ("from", pager.sender.object), ("to", pager.recipient.object),
          ("contact", pager.contact.object)] }] := by
  have decodes : Decodes decoder pager.call
      ⟨pager.sender.text, pager.recipient.text, pager.contact.text, pager.mimeType.text, pager.body.text⟩ :=
    ⟨pager.sender.copied decoder, pager.recipient.copied decoder, pager.contact.copied decoder,
      pager.mimeType.copied decoder, pager.body.copied decoder⟩
  have received := receivePager_eq conversion decoder facts.view leftover decodes
  simp only [receivePager, intValue_int32, bind, Except.bind] at received
  simp only [bridge, posted, configureCallbacksForAgent, BridgedEvent.leftover, bind, Except.bind, pure, Except.pure]
  split at received <;> simp_all [CodecText.object]

-- The dictionary ends where the recipient, looked up under a key that is not there, would stand.
theorem pagerStatus_fires (accId status : Int32) (recipient reason : CodecText) :
    bridge conversion decoder facts (.pagerStatus accId status recipient reason) = .ok [{
      name := "MESSAGE.STATUS"
      fields :=
        [("accountId", numberObject accId.toInt), ("reason", reason.object),
          ("status", numberObject status.toInt)] }] := by
  simp [bridge, posted, configureCallbacksForAgent, onPagerStatus, PjSIPDispatch.dispatchPagerStatus, CodecText.copied, CodecText.object, observeAll,
    observe, didReceiveMessageStatusUpdate, notifGetInt, dictionaryWithObjectsAndKeys, objectForKey, List.lookup_cons,
    PJSIPAccountIdKey, PJSIPPagerStatusCodeKey, PJSIPPagerStatusToKey, PJSIPPagerStatusReasonKey,
    PJSIPPagerToKey, numberObject, intValue_int32, bind, Except.bind, pure, Except.pure]

theorem MwiFacts.mimeText_plain (mwi : MwiFacts) : BytewiseDecoder.PlainAscii mwi.mimeText := by
  intro char member
  rcases List.mem_append.mp member with member | member
  · exact mwi.type.plain char member
  rcases List.mem_cons.mp member with rfl | member
  · decide
  · exact mwi.subtype.plain char member

theorem CodecText.upToNul_bytes (string : CodecText) : BytewiseDecoder.upToNul string.bytes = string.bytes :=
  BytewiseDecoder.upToNul_utf8 fun char member => (string.plain char member).2

/-- The 80-byte buffer keeps the first 79 characters of the media type. -/
theorem MwiFacts.written (mwi : MwiFacts) :
    BytewiseDecoder.upToNul (snprintf 80 (printMediaType ⟨mwi.type.bytes, mwi.subtype.bytes⟩)) =
      BytewiseDecoder.utf8 (mwi.mimeText.take 79) := by
  have printed : printMediaType ⟨mwi.type.bytes, mwi.subtype.bytes⟩ = BytewiseDecoder.utf8 mwi.mimeText := by
    rw [printMediaType, mwi.type.upToNul_bytes, mwi.subtype.upToNul_bytes, MwiFacts.mimeText,
      BytewiseDecoder.utf8_append]
    simp only [CodecText.bytes, List.append_assoc]
    rfl
  rw [printed, snprintf, BytewiseDecoder.utf8_take mwi.mimeText_plain, BytewiseDecoder.upToNul_terminated]
  apply BytewiseDecoder.upToNul_utf8
  intro char member
  exact (mwi.mimeText_plain char (List.mem_of_mem_take member)).2

theorem mwi_fires (mwi : MwiFacts) :
    bridge conversion decoder facts (.mwi mwi) = .ok [{
      name := "MWI"
      fields :=
        [("accountId", numberObject mwi.accId.toInt),
          ("mimeType", .string (String.ofList (mwi.mimeText.take 79))), ("body", mwi.body.object)] }] := by
  have body := mwi.body.decoded decoder
  have mime : initWithBytes decoder (BytewiseDecoder.utf8 (mwi.mimeText.take 79)) =
      some (String.ofList (mwi.mimeText.take 79)) := by
    rw [initWithBytes_eq_some_iff, String.toList_ofList]
    apply decoder.decode_plain
    exact fun char member => mwi.mimeText_plain char (List.mem_of_mem_take member)
  have nonempty : ¬ ((PjStr.ofBytes mwi.body.bytes).slen = 0) := by
    have positive := List.length_pos_of_ne_nil (BytewiseDecoder.utf8_ne_nil mwi.nonempty)
    simp only [PjStr.ofBytes, CodecText.bytes]
    omega
  have reads := read_snprintf (printMediaType ⟨mwi.type.bytes, mwi.subtype.bytes⟩)
  rw [mwi.written] at reads
  change PJUtil.stringWithPJString decoder (.ofBytes mwi.body.bytes) = _ at body
  simp only [bridge, posted, configureCallbacksForAgent, onMwiInfo, PjSIPDispatch.dispatchMwiInfo, MwiFacts.message, PjSIPDispatch.mwiMimeType, bind,
    Except.bind, nonempty, if_false, body, mwi.written]
  simp only [PJUtil.stringWithPJString, reads, Except.map, mime]
  simp [stringWithString, pure, Except.pure, observeAll, observe, didReceiveMWI, notifGetInt,
    dictionaryWithObjectsAndKeys, objectForKey, List.lookup_cons, PJSIPAccountIdKey, PJSIPMwiInfoContentKey,
    PJSIPMwiInfoMimeTypeKey, numberObject, intValue_int32, bind, Except.bind, CodecText.object]

theorem muted_faithful_iff (name : String) (args : NumberArgument) :
    (∀ field ∈ [("callId", NSObject.number args.number)],
      objectForKey (mutedEvent name args).fields field.1 = some field.2) ↔
      args.number = truncatedAddress args := by
  simp [mutedEvent, dictionaryWithObjectsAndKeys, objectForKey, List.lookup_cons, numberObject, truncatedAddress,
    eq_comm]

theorem bridge_faithful_iff (event : BridgedEvent) :
    Faithful conversion decoder facts event ↔ FaithfulWhen facts event := by
  cases event with
  | registrationStarted accId renew =>
    rw [faithful_iff_of_fired conversion decoder facts (registrationStarted_fires conversion decoder facts _ _)]
    exact iff_of_true (by simp [documented, objectForKey]) trivial
  | registrationState accId =>
    rw [faithful_iff_of_fired conversion decoder facts (registrationState_fires conversion decoder facts _)]
    exact iff_of_true (by simp [documented, objectForKey]) trivial
  | incomingCall accId callId rdata =>
    rw [faithful_iff_of_fired conversion decoder facts (incomingCall_fires conversion decoder facts _ _ _)]
    exact iff_of_true (by simp [documented, objectForKey, List.lookup_cons]) trivial
  | callState callId event =>
    rw [faithful_iff_of_fired conversion decoder facts (callState_fires conversion decoder facts _ _)]
    have owner := numberObject_int32_eq_iff 0 (facts.calls callId.toInt).accId
    simpa [documented, objectForKey, List.lookup_cons, FaithfulWhen, eq_comm] using owner
  | pager pager leftover =>
    rw [faithful_iff_of_fired conversion decoder facts (pager_fires conversion decoder facts _ _)]
    simp [documented, objectForKey, List.lookup_cons, FaithfulWhen, numberObject_int32_eq_iff]
  | pagerStatus accId status recipient reason =>
    rw [faithful_iff_of_fired conversion decoder facts (pagerStatus_fires conversion decoder facts _ _ _ _)]
    simp [documented, objectForKey, List.lookup_cons, FaithfulWhen]
  | mwi mwi =>
    rw [faithful_iff_of_fired conversion decoder facts (mwi_fires conversion decoder facts _)]
    have kept : String.ofList (mwi.mimeText.take 79) = String.ofList mwi.mimeText ↔ mwi.mimeText.length ≤ 79 := by
      rw [String.ofList_inj, List.take_eq_self_iff]
    simpa [documented, objectForKey, List.lookup_cons, FaithfulWhen] using kept
  | muted args =>
    rw [faithful_iff_of_fired conversion decoder facts rfl]
    exact muted_faithful_iff "MUTED.YES" args
  | unmuted args =>
    rw [faithful_iff_of_fired conversion decoder facts rfl]
    exact muted_faithful_iff "MUTED.NO" args

end Bridge

def plainText (text : String) (plain : BytewiseDecoder.PlainAscii text.toList) : CodecText := ⟨text, plain⟩

def secondAccountCall : LibraryFacts where
  calls _ :=
    { accId := 1, state := .confirmed, mediaStatus := .active, confSlot := 1
      remoteInfo := plainText "sip:200" (by decide), remoteContact := plainText "sip:200" (by decide)
      callId := plainText "a" (by decide) }
  accounts _ := { regLastErr := 0, status := 200, expires := 10 }

theorem second_account_call_misreported :
    ¬ Faithful saturating .strict secondAccountCall (.callState 0 0) := by
  intro faithful
  obtain ⟨fired, fires, carries⟩ := faithful
  rw [callState_fires] at fires
  cases fires
  have owner := carries ("accountId", numberObject 1) (by decide)
  revert owner
  decide

end TiSIP.Module
