import TiSIP.Dispatch.PJUtil

namespace TiSIP.Pjsua

open Dispatch

structure MediaType where
  type : List UInt8
  subtype : List UInt8
  deriving DecidableEq

structure MsgBody where
  contentType : MediaType
  data : List UInt8
  deriving DecidableEq

inductive PrintedUri
  | printed (bytes : List UInt8)
  | tooLong
  deriving DecidableEq

def asciiLower (byte : UInt8) : UInt8 := if 65 ≤ byte ∧ byte ≤ 90 then byte + 32 else byte

def stricmp (left : List UInt8) (right : String) : Bool :=
  left.map asciiLower = (BytewiseDecoder.utf8 right.toList).map asciiLower

def isMultipart (media : MediaType) : Bool := stricmp media.type "multipart"

structure SipMessage where
  fromUri : PrintedUri
  toUri : PrintedUri
  contact : Option PrintedUri
  ctype : Option MediaType
  body : Option MsgBody
  /-- `int_parse_msg` makes a body of the bytes that follow a Content-Type; only one of several parts has none of
      its own -/
  parsed : ∀ made, body = some made →
    ctype = some made.contentType ∧ (made.data = [] → isMultipart made.contentType = true)

def SipMessage.receiving (message : SipMessage) (sent : MsgBody) : SipMessage where
  fromUri := message.fromUri
  toUri := message.toUri
  contact := message.contact
  ctype := some sent.contentType
  body := if sent.data = [] then none else some sent
  parsed := by
    intro made held
    split at held
    · cases held
    · rename_i written
      cases held
      exact ⟨rfl, fun empty => absurd empty written⟩

structure PagerCall where
  callId : Int
  sender : PjStr
  recipient : PjStr
  contact : PjStr
  mimeType : PjStr
  body : PjStr
  deriving DecidableEq

def PrintedUri.toPjStr : PrintedUri → PjStr
  | .printed bytes => .ofBytes bytes
  | .tooLong => { ptr := [], slen := -1 }

/-- `pj_ansi_snprintf(buf, size, "%.*s/%.*s", ...)`: the text, cut to the buffer with its
    terminator, and the length the whole text would have had. -/
def printMediaType (media : MediaType) : List UInt8 :=
  BytewiseDecoder.upToNul media.type ++ [47] ++ BytewiseDecoder.upToNul media.subtype

def snprintf (size : Nat) (text : List UInt8) : List UInt8 := text.take (size - 1) ++ [0]

def isComposing (body : MsgBody) : Bool :=
  stricmp body.contentType.type "application" && stricmp body.contentType.subtype "im-iscomposing+xml"

def contactText : Option PrintedUri → PjStr
  | some uri => uri.toPjStr
  -- `contact.ptr` is left uninitialised here.
  | none => { ptr := [], slen := 0 }

/-- `pjsua_im_process_pager` up to its call of `on_pager`; a typing indication has none. -/
def imProcessPager (callId : Int) (sender recipient : PjStr) (msg : SipMessage) : Option PagerCall :=
  let contact := contactText msg.contact
  match msg.body with
  | none => some { callId, sender, recipient, contact, mimeType := .literal "", body := .literal "" }
  | some body =>
    if isComposing body then none
    else
      let text := printMediaType body.contentType
      let returned : Int := text.length
      let mimeType := { ptr := snprintf 256 text, slen := if returned < 1 then 0 else returned }
      some { callId, sender, recipient, contact, mimeType, body := .ofBytes body.data }

def fromToText (uri : PrintedUri) : PjStr :=
  if uri.toPjStr.slen < 1 then .literal "<--URI is too long-->" else uri.toPjStr

def invalidCallId : Int := -1

def imOnRxRequest (msg : SipMessage) : Option PagerCall :=
  imProcessPager invalidCallId (fromToText msg.fromUri) (fromToText msg.toUri) msg

def imSendBody (content : PjStr) : MsgBody where
  contentType :=
    { type := BytewiseDecoder.utf8 "text".toList, subtype := BytewiseDecoder.utf8 "plain".toList }
  data := content.ptr.take content.slen.toNat

theorem read_mimeType_eq_ok_iff (text bytes : List UInt8) :
    ({ ptr := snprintf 256 text, slen := text.length } : PjStr).read = .ok bytes ↔
      text.length ≤ 256 ∧ (snprintf 256 text).take text.length = bytes := by
  rw [PjStr.read_eq_ok_iff]
  have size : (snprintf 256 text).length = min 255 text.length + 1 := by simp [snprintf]
  simp only [size, Int.toNat_natCast]
  exact ⟨fun held => ⟨by omega, held.2.2⟩, fun held => ⟨by omega, by omega, held.2⟩⟩

theorem snprintf_take (text : List UInt8) (short : text.length ≤ 255) :
    (snprintf 256 text).take text.length = text := by
  simp [snprintf, List.take_of_length_le short]

end TiSIP.Pjsua
