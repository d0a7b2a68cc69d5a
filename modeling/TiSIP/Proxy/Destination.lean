import TiSIP.Pjsip.UriText
import TiSIP.Pjsip.AppendedUri

namespace TiSIP.Proxy

open Pjlib Pjsip

def calledUri (uri : String) : String := uri ++ ";transport=tcp"

def toUri (uri : String) : String := uri ++ ";transport=tcp"

/-- The string is accepted, with the URI's parts and the transport parameter `tcp`. -/
def KeepsDestination (asNameAddr : Bool) (url : SipUri) (built : String) : Prop :=
  ∃ parsed, parseNSString (callerOption asNameAddr) built = some parsed ∧
    parsed.sipUri? = some { url with transportParam := BytewiseDecoder.utf8 "tcp".toList }

theorem appended_tcp :
    AppendedTransport (BytewiseDecoder.utf8 ";transport=tcp".toList) (BytewiseDecoder.utf8 "tcp".toList) where
  head := by decide +kernel
  probed := by decide +kernel
  noQuotation := by decide +kernel
  noBracket := by decide +kernel
  nonempty := by decide +kernel
  param := by decide +kernel

theorem libraryText_calledUri {uri : String} (noNul : NoNul uri) :
    libraryText (calledUri uri) = libraryText uri ++ BytewiseDecoder.utf8 ";transport=tcp".toList := by
  have plain : NoNul ";transport=tcp" := by decide
  rw [calledUri, libraryText_append noNul, libraryText_of_noNul plain]

theorem keeps_of_unread {asNameAddr : Bool} {built : String} {parsed : ParsedUri} {url : SipUri}
    (same : parseNSString (callerOption asNameAddr) built = some parsed) (isSip : parsed.sipUri? = some url) :
    KeepsDestination asNameAddr url built ↔ url.transportParam = BytewiseDecoder.utf8 "tcp".toList := by
  constructor
  · intro ⟨other, again, kept⟩
    obtain rfl := Option.some.inj (same.symm.trans again)
    rw [isSip] at kept
    exact congrArg SipUri.transportParam (Option.some.inj kept)
  · intro already
    exact ⟨parsed, same, by rw [isSip, ← already]⟩

theorem keeps_of_rejected {asNameAddr : Bool} {built : String}
    (rejected : parseNSString (callerOption asNameAddr) built = none) (url : SipUri) : ¬ KeepsDestination asNameAddr url built := by
  intro ⟨parsed, accepted, _⟩
  rw [rejected] at accepted
  cases accepted

theorem withTransport_sipUri? {parsed : ParsedUri} {url : SipUri} {value : List UInt8}
    (isSip : parsed.sipUri? = some url) : (parsed.withTransport value).sipUri? = some (url.withTransport value) := by
  rcases parsed with uri | ⟨display, uri⟩
  all_goals
    cases uri with
    | sip other =>
      obtain rfl := Option.some.inj isSip
      rfl
    | tel other => cases isSip
    | other other => cases isSip

/-- A URI keeps its destination exactly when the appended parameter joins its parameters, or is
    not read at all and the URI asks for TCP itself. -/
theorem transport_keeps_destination_iff (asNameAddr : Bool) (uri : String) (parsed : ParsedUri) (url : SipUri)
    (accepted : parseNSString (callerOption asNameAddr) uri = some parsed) (isSip : parsed.sipUri? = some url) :
    KeepsDestination asNameAddr url (calledUri uri) ∧ KeepsDestination asNameAddr url (toUri uri) ↔
      ReadToEnd asNameAddr uri ∧ url.headerParam = [] ∧ (∀ byte ∈ (libraryText uri).getLast?, SolidByte byte) ∨
        ¬ ReadToEnd asNameAddr uri ∧ url.transportParam = BytewiseDecoder.utf8 "tcp".toList := by
  have appends := intParseUriOrNameAddr_appends appended_tcp asNameAddr
  have whole := accepted
  rw [parseNSString_eq, parseUri_eq_some_iff] at accepted
  obtain ⟨rest, reads, ends⟩ := accepted
  rw [readToEnd_iff reads, show toUri uri = calledUri uri from rfl, and_self]
  by_cases noNul : NoNul uri
  · have text := libraryText_calledUri noNul
    by_cases opens : OpenEnd (libraryText uri) rest url
    · have joined := appends.joined _ parsed rest url reads isSip opens
      rw [← text] at joined
      have keeps : KeepsDestination asNameAddr url (calledUri uri) := by
        refine ⟨_, ?_, withTransport_sipUri? isSip⟩
        rw [parseNSString_eq, parseUri_eq_some_iff]
        exact ⟨[], joined, .inl rfl⟩
      simp only [keeps, noNul, opens.1, opens.2.1, true_iff]
      exact .inl ⟨⟨trivial, trivial⟩, trivial, opens.2.2⟩
    · have apart := appends.apart _ parsed rest url reads isSip opens
      rw [← text] at apart
      rcases ends with rfl | newline
      · -- The appended semicolon is left over, and is no line end.
        have rejected : parseNSString (callerOption asNameAddr) (calledUri uri) = none := by
          rw [parseNSString_eq, parseUri, callerOption, apart]
          exact if_neg (by decide +kernel)
        have never := keeps_of_rejected rejected url
        simp only [never, noNul, false_iff]
        intro held
        rcases held with ⟨-, bare, last⟩ | ⟨unread, -⟩
        · exact opens ⟨rfl, bare, last⟩
        · exact unread ⟨trivial, trivial⟩
      · have nonempty : rest ≠ [] := by
          intro empty
          simp [empty] at newline
        have again : parseNSString (callerOption asNameAddr) (calledUri uri) = some parsed := by
          rw [parseNSString_eq, parseUri_eq_some_iff]
          obtain ⟨byte, others, rfl⟩ := List.exists_cons_of_ne_nil nonempty
          exact ⟨_, apart, .inr newline⟩
        rw [keeps_of_unread again isSip]
        simp [nonempty]
  · have again : parseNSString (callerOption asNameAddr) (calledUri uri) = some parsed := by
      rw [parseNSString_eq, calledUri, libraryText_append_of_nul noNul, ← parseNSString_eq, whole]
    rw [keeps_of_unread again isSip]
    simp [noNul]

def bobAtExample : SipUri :=
  { sipUriCreate false with
    user := BytewiseDecoder.utf8 "bob".toList
    host := BytewiseDecoder.utf8 "example.com".toList }

theorem bob_keeps_destination :
    parseNSString (callerOption false) "sip:bob@example.com" = some (.bare (.sip bobAtExample)) ∧
      KeepsDestination false bobAtExample (calledUri "sip:bob@example.com") ∧
      KeepsDestination false bobAtExample (toUri "sip:bob@example.com") := by
  have accepted : parseNSString (callerOption false) "sip:bob@example.com" = some (.bare (.sip bobAtExample)) := by
    decide +kernel
  have whole : ReadToEnd false "sip:bob@example.com" := ⟨by decide, .bare (.sip bobAtExample), by decide +kernel⟩
  refine ⟨accepted, (transport_keeps_destination_iff false _ _ _ accepted rfl).mpr (.inl ⟨whole, rfl, ?_⟩)⟩
  decide +kernel

/-- A URI with headers and one in angle brackets are accepted, and refused with the transport
    after them. -/
theorem headers_and_brackets_lose_destination :
    (∃ url, parseNSString (callerOption false) "sip:bob@example.com?subject=hi" = some (.bare (.sip url)) ∧
      ¬ KeepsDestination false url (calledUri "sip:bob@example.com?subject=hi")) ∧
    (parseNSString (callerOption false) "<sip:bob@example.com>" =
        some (.named { display := [], uri := .sip bobAtExample }) ∧
      ¬ KeepsDestination false bobAtExample (calledUri "<sip:bob@example.com>")) := by
  constructor
  · let subject : SipParam :=
      { name := BytewiseDecoder.utf8 "subject".toList, value := BytewiseDecoder.utf8 "hi".toList }
    refine ⟨{ bobAtExample with headerParam := [subject] }, by decide +kernel, ?_⟩
    apply keeps_of_rejected
    decide +kernel
  · refine ⟨by decide +kernel, ?_⟩
    apply keeps_of_rejected
    decide +kernel

end TiSIP.Proxy
