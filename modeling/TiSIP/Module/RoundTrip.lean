import TiSIP.Module.Pipeline
import TiSIP.Dispatch.RemoteMessages

namespace TiSIP.Module

open Foundation Foundation.NSNumber Dispatch Pjsua

structure Envelope (decoder : BytewiseDecoder) where
  delivery : PagerDelivery
  message : SipMessage
  leftover : Leftover
  parties : ReadableParties decoder message delivery
  contact : ReadableContact decoder message.contact

/-- `sendText` on one client, and what the other makes of the body it receives. -/
def sendReceive (conversion : IntConversion) (decoder : BytewiseDecoder) (view : LibraryView)
    (envelope : Envelope decoder) (content : String) : Except Fault (List Event) :=
  let body := imSendBody (PJUtil.PJStringWithString content)
  match deliverMessage (envelope.message.receiving body) envelope.delivery with
  | none => .ok []
  | some call => receivePager conversion decoder view call envelope.leftover

structure TextSurvives (conversion : IntConversion) (decoder : BytewiseDecoder) (content : String) : Prop where
  roundTrip : PJUtil.stringWithPJString decoder (PJUtil.PJStringWithString content) = .ok (some content)
  delivered : ∀ (view : LibraryView) (envelope : Envelope decoder), ∃ event,
    sendReceive conversion decoder view envelope content = .ok [event] ∧
      event.name = "MESSAGE.INCOMING" ∧ objectForKey event.fields "content" = some (.string content)

theorem round_trip_iff (decoder : BytewiseDecoder) (content : String) :
    PJUtil.stringWithPJString decoder (PJUtil.PJStringWithString content) = .ok (some content) ↔
      BytewiseDecoder.PlainAscii content.toList := by
  rw [← decoder.decode_utf8_iff, ← initWithBytes_eq_some_iff]
  simp [PJUtil.stringWithPJString, PJUtil.read_PJStringWithString, Except.map]

theorem imSendBody_data (content : String) :
    (imSendBody (PJUtil.PJStringWithString content)).data =
      BytewiseDecoder.upToNul (BytewiseDecoder.utf8 content.toList) := by
  have reads := PJUtil.read_PJStringWithString content
  exact ((PjStr.read_eq_ok_iff _ _).mp reads).2.2

theorem imSendBody_not_composing (content : PjStr) : isComposing (imSendBody content) = false := by
  have kind : stricmp (BytewiseDecoder.utf8 "text".toList) "application" = false := by decide
  rw [isComposing, imSendBody, kind, Bool.false_and]

theorem plain_mimeType_copied (decoder : BytewiseDecoder) (content : PjStr) :
    ∃ text, PJUtil.copied decoder
      { ptr := snprintf 256 (printMediaType (imSendBody content).contentType)
        slen := (printMediaType (imSendBody content).contentType).length } = .ok text := by
  rw [mimeType_copied_iff]
  have ascii : ((printMediaType (imSendBody ⟨[], 0⟩).contentType).take 255).all (fun byte => byte.toNat < 128) = true := by
    decide
  have short : (printMediaType (imSendBody ⟨[], 0⟩).contentType).length ≤ 256 := by decide
  exact ⟨short, readable_ascii decoder ascii⟩

theorem parties_copied {decoder : BytewiseDecoder} (envelope : Envelope decoder) {sent : MsgBody}
    (text : isComposing sent = false)
    (mime : ∃ text, PJUtil.copied decoder
      { ptr := snprintf 256 (printMediaType sent.contentType)
        slen := (printMediaType sent.contentType).length } = .ok text) :
    ∃ call, deliverMessage (envelope.message.receiving sent) envelope.delivery = some call ∧
      (∃ sender, PJUtil.copied decoder call.sender = .ok sender) ∧
      (∃ recipient, PJUtil.copied decoder call.recipient = .ok recipient) ∧
      call.contact = contactText envelope.message.contact ∧
      (∃ mimeType, PJUtil.copied decoder call.mimeType = .ok mimeType) ∧ call.body = .ofBytes sent.data := by
  have printed : ¬ (((printMediaType sent.contentType).length : Int) < 1) := by
    simp only [printMediaType, List.length_append, List.length_singleton]
    omega
  have nothing : ∃ mimeType, PJUtil.copied decoder (.ofBytes []) = .ok mimeType :=
    (PJUtil.copied_ofBytes_succeeds_iff decoder []).mpr decoder.readable_nil
  have literal : PjStr.literal "" = .ofBytes [] := rfl
  have parties := envelope.parties
  cases place : envelope.delivery with
  | outOfDialog =>
    simp only [place, ReadableParties, ← fromToText_copied_iff] at parties
    by_cases empty : sent.data = []
    · simp [deliverMessage, imOnRxRequest, imProcessPager, SipMessage.receiving, empty, parties, nothing, literal]
    · simp [deliverMessage, imOnRxRequest, imProcessPager, SipMessage.receiving, empty, text, printed, parties, mime]
  | inDialog callId remoteInfo localInfo =>
    simp only [place, ReadableParties, ← PJUtil.copied_ofBytes_succeeds_iff] at parties
    by_cases empty : sent.data = []
    · simp [deliverMessage, imProcessPager, SipMessage.receiving, empty, parties, nothing, literal]
    · simp [deliverMessage, imProcessPager, SipMessage.receiving, empty, text, printed, parties, mime]

theorem sent_message_decodes (decoder : BytewiseDecoder) (envelope : Envelope decoder) {content : String}
    (plain : BytewiseDecoder.PlainAscii content.toList) :
    ∃ call texts,
      deliverMessage (envelope.message.receiving (imSendBody (PJUtil.PJStringWithString content)))
          envelope.delivery = some call ∧
        Decodes decoder call texts ∧ texts.body = content := by
  have text := imSendBody_not_composing (PJUtil.PJStringWithString content)
  obtain ⟨call, delivered, ⟨sender, from_ok⟩, ⟨recipient, to_ok⟩, contact, ⟨mimeString, mime_ok⟩, body⟩ :=
    parties_copied envelope text (plain_mimeType_copied decoder (PJUtil.PJStringWithString content))
  obtain ⟨contactString, contact_ok⟩ := (contact_copied_iff decoder _).mpr envelope.contact
  have body_ok : PJUtil.copied decoder call.body = .ok content := by
    rw [body, imSendBody_data, PJUtil.copied_eq_ok_iff]
    refine ⟨_, PjStr.read_ofBytes _, ?_⟩
    rw [initWithBytes_eq_some_iff, decoder.decode_utf8_iff]
    exact plain
  refine ⟨call, ⟨sender, recipient, contactString, mimeString, content⟩, delivered, ?_, rfl⟩
  exact ⟨from_ok, to_ok, by rw [contact]; exact contact_ok, mime_ok, body_ok⟩

theorem text_survives_iff (conversion : IntConversion) (decoder : BytewiseDecoder) (content : String) :
    TextSurvives conversion decoder content ↔ BytewiseDecoder.PlainAscii content.toList := by
  rw [← round_trip_iff decoder]
  constructor
  · exact TextSurvives.roundTrip
  · intro trip
    refine ⟨trip, fun view envelope => ?_⟩
    obtain ⟨call, texts, delivered, decodes, body⟩ :=
      sent_message_decodes decoder envelope ((round_trip_iff decoder content).mp trip)
    simp only [sendReceive, delivered, receivePager_eq conversion decoder view envelope.leftover decodes, body]
    exact ⟨_, rfl, rfl, by simp [objectForKey, List.lookup_cons]⟩

theorem accented_text_lost : ¬ TextSurvives saturating .strict "é" := by
  intro survives
  have trip := survives.roundTrip
  revert trip
  decide

end TiSIP.Module
