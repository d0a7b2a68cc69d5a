import TiSIP.Dispatch.PjSIPDispatch

namespace TiSIP.Dispatch

open Foundation Pjsua PjSIPDispatch

inductive PagerDelivery
  | outOfDialog
  | inDialog (callId : Int) (remoteInfo localInfo : List UInt8)

def deliverMessage (msg : SipMessage) : PagerDelivery → Option PagerCall
  | .outOfDialog => imOnRxRequest msg
  | .inDialog callId remoteInfo localInfo =>
    imProcessPager callId (.ofBytes remoteInfo) (.ofBytes localInfo) msg

inductive RemoteMessage
  | pager (delivery : PagerDelivery) (msg : SipMessage) (leftover : Leftover)
  | mwi (accountId : Int) (msg : SipMessage)

def BridgeSurvives (decoder : BytewiseDecoder) : RemoteMessage → Prop
  | .pager delivery msg leftover =>
    ∀ call ∈ deliverMessage msg delivery, ∃ notification, onPager decoder call leftover = .ok [notification]
  | .mwi accountId msg =>
    if (msg.body.map MsgBody.data).getD [] = [] then onMwiInfo decoder accountId msg = .ok []
    else ∃ notification, onMwiInfo decoder accountId msg = .ok [notification]

def ReadableUri (decoder : BytewiseDecoder) (uri : PrintedUri) : Prop :=
  ∀ bytes, uri = .printed bytes → decoder.Readable bytes

def ReadableParties (decoder : BytewiseDecoder) (msg : SipMessage) : PagerDelivery → Prop
  | .outOfDialog => ReadableUri decoder msg.fromUri ∧ ReadableUri decoder msg.toUri
  | .inDialog _ remoteInfo localInfo => decoder.Readable remoteInfo ∧ decoder.Readable localInfo

def ReadableContact (decoder : BytewiseDecoder) : Option PrintedUri → Prop
  | none => True
  | some uri => uri ≠ .tooLong ∧ ReadableUri decoder uri

def ReadablePagerBody (decoder : BytewiseDecoder) : Option MsgBody → Prop
  | none => True
  | some body =>
    (printMediaType body.contentType).length ≤ 256 ∧
      decoder.Readable ((printMediaType body.contentType).take 255) ∧ decoder.Readable body.data

def Presentable (decoder : BytewiseDecoder) : RemoteMessage → Prop
  | .pager delivery msg _ =>
    msg.body.any isComposing ∨ ReadableParties decoder msg delivery ∧
      ReadableContact decoder msg.contact ∧ ReadablePagerBody decoder msg.body
  | .mwi _ msg =>
    ∃ body ∈ msg.body, body.data = [] ∨ decoder.Readable body.data ∧
      ∃ media ∈ msg.ctype, decoder.Readable (BytewiseDecoder.upToNul (snprintf 80 (printMediaType media)))

section Pager

variable (decoder : BytewiseDecoder)

theorem bind_posts_iff {α : Type} (first : Except Fault α) (rest : α → Except Fault (List NSNotification)) :
    (∃ notification, (first >>= rest) = .ok [notification]) ↔
      ∃ value, first = .ok value ∧ ∃ notification, rest value = .ok [notification] := by
  cases first with
  | error fault => simp [bind, Except.bind]
  | ok value => simp [bind, Except.bind]

theorem onPager_posts_iff (call : PagerCall) (leftover : Leftover) :
    (∃ notification, onPager decoder call leftover = .ok [notification]) ↔
      (∃ text, PJUtil.copied decoder call.sender = .ok text) ∧
        (∃ text, PJUtil.copied decoder call.recipient = .ok text) ∧
        (∃ text, PJUtil.copied decoder call.contact = .ok text) ∧
        (∃ text, PJUtil.copied decoder call.mimeType = .ok text) ∧
        ∃ text, PJUtil.copied decoder call.body = .ok text := by
  simp only [onPager, dispatchPagerInfo, bind_posts_iff]
  simp [pure, Except.pure]

theorem contact_copied_iff (contact : Option PrintedUri) :
    (∃ text, PJUtil.copied decoder (contactText contact) = .ok text) ↔ ReadableContact decoder contact := by
  cases contact with
  | none =>
    have empty := (PJUtil.copied_ofBytes_succeeds_iff decoder []).mpr decoder.readable_nil
    exact iff_of_true empty trivial
  | some uri =>
    cases uri with
    | printed bytes => simp [contactText, ReadableContact, ReadableUri, PrintedUri.toPjStr, PJUtil.copied_ofBytes_succeeds_iff]
    | tooLong =>
      rw [PJUtil.copied_succeeds_iff]
      simp [contactText, ReadableContact, PrintedUri.toPjStr, PjStr.read]

theorem readable_ascii {bytes : List UInt8} (ascii : bytes.all (fun byte => byte.toNat < 128) = true) :
    decoder.Readable bytes := by
  intro byte member
  have low := of_decide_eq_true (List.all_eq_true.mp ascii byte member)
  rw [decoder.char_ascii low]
  rfl

theorem fromToText_copied_iff (uri : PrintedUri) :
    (∃ text, PJUtil.copied decoder (fromToText uri) = .ok text) ↔ ReadableUri decoder uri := by
  have notice : decoder.Readable (BytewiseDecoder.utf8 "<--URI is too long-->".toList) :=
    readable_ascii decoder (by decide)
  unfold fromToText PjStr.literal
  cases uri with
  | tooLong =>
    rw [if_pos (by decide), PJUtil.copied_ofBytes_succeeds_iff]
    exact iff_of_true notice (by simp [ReadableUri])
  | printed bytes =>
    have printed : ReadableUri decoder (.printed bytes) ↔ decoder.Readable bytes := by simp [ReadableUri]
    rw [printed]
    split
    · rename_i short
      have empty : bytes = [] := by
        apply List.length_eq_zero_iff.mp
        simp only [PrintedUri.toPjStr, PjStr.ofBytes] at short
        omega
      rw [PJUtil.copied_ofBytes_succeeds_iff, empty]
      exact iff_of_true notice decoder.readable_nil
    · exact PJUtil.copied_ofBytes_succeeds_iff decoder bytes

theorem snprintf_read_readable (text : List UInt8) (fits : text.length ≤ 256) :
    decoder.Readable ((snprintf 256 text).take text.length) ↔ decoder.Readable (text.take 255) := by
  by_cases short : text.length ≤ 255
  · rw [snprintf_take text short, List.take_of_length_le short]
  · have exactly : text.length = 256 := by omega
    have whole : (snprintf 256 text).take text.length = text.take 255 ++ [0] := by
      simp [snprintf, exactly]
    rw [whole, decoder.readable_append]
    exact and_iff_left decoder.readable_terminator

theorem mimeType_copied_iff (text : List UInt8) :
    (∃ string, PJUtil.copied decoder { ptr := snprintf 256 text, slen := text.length } = .ok string) ↔
      text.length ≤ 256 ∧ decoder.Readable (text.take 255) := by
  rw [PJUtil.copied_succeeds_iff]
  simp only [read_mimeType_eq_ok_iff]
  constructor
  · intro held
    obtain ⟨bytes, ⟨fits, same⟩, readable⟩ := held
    rw [← same, snprintf_read_readable decoder text fits] at readable
    exact ⟨fits, readable⟩
  · intro held
    exact ⟨_, ⟨held.1, rfl⟩, (snprintf_read_readable decoder text held.1).mpr held.2⟩

theorem imProcessPager_posts_iff (callId : Int) (sender recipient : PjStr) (msg : SipMessage)
    (leftover : Leftover) :
    (∀ call ∈ imProcessPager callId sender recipient msg,
      ∃ notification, onPager decoder call leftover = .ok [notification]) ↔
      msg.body.any isComposing ∨ (∃ text, PJUtil.copied decoder sender = .ok text) ∧
        (∃ text, PJUtil.copied decoder recipient = .ok text) ∧
        ReadableContact decoder msg.contact ∧ ReadablePagerBody decoder msg.body := by
  cases body : msg.body with
  | none =>
    have empty := (PJUtil.copied_ofBytes_succeeds_iff decoder []).mpr decoder.readable_nil
    have literal : PjStr.literal "" = .ofBytes [] := rfl
    simp only [imProcessPager, body, Option.mem_def, Option.some.injEq, forall_eq', onPager_posts_iff,
      contact_copied_iff, literal, empty, Option.any_none, ReadablePagerBody]
    simp
  | some content =>
    by_cases typing : isComposing content = true
    · simp [imProcessPager, body, typing]
    · have printed : ¬ (((printMediaType content.contentType).length : Int) < 1) := by
        simp only [printMediaType, List.length_append, List.length_singleton]
        omega
      simp only [imProcessPager, body, typing, if_false, Bool.false_eq_true, printed, Option.mem_def,
        Option.some.injEq, forall_eq', onPager_posts_iff, contact_copied_iff, mimeType_copied_iff,
        PJUtil.copied_ofBytes_succeeds_iff, Option.any_some, ReadablePagerBody, false_or, and_assoc]

theorem pager_survives_iff (delivery : PagerDelivery) (msg : SipMessage) (leftover : Leftover) :
    BridgeSurvives decoder (.pager delivery msg leftover) ↔
      Presentable decoder (.pager delivery msg leftover) := by
  cases delivery with
  | outOfDialog =>
    simp only [BridgeSurvives, deliverMessage, imOnRxRequest, imProcessPager_posts_iff, fromToText_copied_iff,
      Presentable, ReadableParties, and_assoc]
  | inDialog callId remoteInfo localInfo =>
    simp only [BridgeSurvives, deliverMessage, imProcessPager_posts_iff, PJUtil.copied_ofBytes_succeeds_iff,
      Presentable, ReadableParties, and_assoc]

end Pager

theorem read_snprintf (text : List UInt8) :
    ({ ptr := snprintf 80 text, slen := (BytewiseDecoder.upToNul (snprintf 80 text)).length } : PjStr).read =
      .ok (BytewiseDecoder.upToNul (snprintf 80 text)) := by
  have shorter := (List.takeWhile_sublist (l := snprintf 80 text) fun byte => byte != 0).length_le
  have whole := List.takeWhile_prefix (l := snprintf 80 text) fun byte => byte != 0
  rw [PjStr.read_eq_ok_iff]
  refine ⟨Int.natCast_nonneg _, by simpa using! shorter, ?_⟩
  exact (List.prefix_iff_eq_take.mp whole).symm

theorem stringWithString_succeeds_iff (string : Option String) :
    (∃ value, stringWithString string = .ok value) ↔ string.isSome := by
  cases string <;> simp [stringWithString]

theorem mwi_posts_iff (decoder : BytewiseDecoder) (accountId : Int) (msg : SipMessage) (body : MsgBody)
    (present : msg.body = some body) (nonempty : body.data ≠ []) :
    (∃ notification, onMwiInfo decoder accountId msg = .ok [notification]) ↔
      decoder.Readable body.data ∧
        ∃ media ∈ msg.ctype, decoder.Readable (BytewiseDecoder.upToNul (snprintf 80 (printMediaType media))) := by
  have length : ¬ ((PjStr.ofBytes body.data).slen = 0) := by simpa [PjStr.ofBytes] using nonempty
  simp only [onMwiInfo, dispatchMwiInfo, bind_posts_iff, present, Except.ok.injEq, exists_eq_left', length,
    if_false, PJUtil.stringWithPJString, PjStr.read_ofBytes, Except.map]
  cases msg.ctype with
  | none => simp [mwiMimeType]
  | some media =>
    simp only [mwiMimeType, Except.ok.injEq, exists_eq_left', read_snprintf, Option.mem_def, Option.some.injEq,
      ← initWithBytes_isSome_iff, ← stringWithString_succeeds_iff]
    simp [pure, Except.pure]

theorem mwi_survives_iff (decoder : BytewiseDecoder) (accountId : Int) (msg : SipMessage) :
    BridgeSurvives decoder (.mwi accountId msg) ↔ Presentable decoder (.mwi accountId msg) := by
  cases present : msg.body with
  | none => simp [BridgeSurvives, Presentable, onMwiInfo, dispatchMwiInfo, present, bind, Except.bind]
  | some body =>
    by_cases empty : body.data = []
    · simp [BridgeSurvives, Presentable, onMwiInfo, dispatchMwiInfo, present, empty, PjStr.ofBytes, bind,
        Except.bind, pure, Except.pure]
    · simp [BridgeSurvives, Presentable, present, empty, mwi_posts_iff decoder accountId msg body present empty]

theorem bridge_survives_iff (decoder : BytewiseDecoder) (message : RemoteMessage) :
    BridgeSurvives decoder message ↔ Presentable decoder message := by
  cases message with
  | pager delivery msg leftover => exact pager_survives_iff decoder delivery msg leftover
  | mwi accountId msg => exact mwi_survives_iff decoder accountId msg

def accentedText : SipMessage where
  fromUri := .printed (BytewiseDecoder.utf8 "sip:mallory@example.com".toList)
  toUri := .printed (BytewiseDecoder.utf8 "sip:bob@example.com".toList)
  contact := none
  ctype := some (imSendBody (.literal "café")).contentType
  body := some (imSendBody (.literal "café"))
  parsed := by
    intro made held
    cases held
    exact ⟨rfl, by decide⟩

def longContact : SipMessage :=
  { accentedText with contact := some .tooLong }.receiving (imSendBody (.literal "hello"))

theorem received_texts_fault :
    ¬ BridgeSurvives .strict (.pager .outOfDialog accentedText ⟨0, 0⟩) ∧
      ¬ BridgeSurvives .strict (.pager .outOfDialog longContact ⟨0, 0⟩) := by
  constructor
  · rw [pager_survives_iff]
    rintro (typing | ⟨_, _, _, _, readable⟩)
    · revert typing
      decide
    · have unread : ¬ BytewiseDecoder.strict.Readable (imSendBody (.literal "café")).data := by
        unfold BytewiseDecoder.Readable
        decide +kernel
      exact unread readable
  · rw [pager_survives_iff]
    rintro (typing | ⟨_, ⟨printed, _⟩, _⟩)
    · revert typing
      decide
    · exact printed rfl

end TiSIP.Dispatch
