import TiSIP.Pjlib.Scanner
import TiSIP.Pjsua.Im

namespace TiSIP.Pjmedia

open Pjlib
open Pjsua (asciiLower)

def pjStr (text : String) : List UInt8 := BytewiseDecoder.utf8 text.toList

/-- `pj_stricmp(left, right) == 0`. -/
def pjStricmp (left right : List UInt8) : Bool := left.map asciiLower == right.map asciiLower

structure SdpAttr where
  name : List UInt8
  value : List UInt8
  deriving DecidableEq

structure SdpConn where
  netType : List UInt8
  addrType : List UInt8
  addr : List UInt8
  deriving DecidableEq

structure SdpRtpmap where
  encName : List UInt8
  clockRate : Nat
  param : List UInt8
  deriving DecidableEq

structure SdpMedia where
  media : List UInt8
  port : Nat
  transport : List UInt8
  fmt : List (List UInt8)
  conn : Option SdpConn
  attr : List SdpAttr
  deriving DecidableEq

structure SdpOrigin where
  user : List UInt8
  id : UInt32
  version : UInt32
  netType : List UInt8
  addrType : List UInt8
  addr : List UInt8
  deriving DecidableEq

structure SdpSession where
  origin : SdpOrigin
  name : List UInt8
  conn : Option SdpConn
  media : List SdpMedia
  deriving DecidableEq

inductive SdpStatus
  | success
  | pjEInval
  | pjEBug
  | pjENoMem
  | sdpEInOrigin
  | sdpEInName
  | sdpEInConn
  | sdpEInMedia
  | sdpENoFmt
  | sdpEMissingConn
  | sdpEInPt
  | sdpEMissingRtpmap
  | sdpETPortNotEqual
  | sdpNegEInState
  | sdpNegEInvAnsMedia
  | sdpNegEInvAnsTp
  | sdpNegEAnsNoMedia
  | sdpNegENoMedia
  | sdpNegNoAnsCodec
  | sdpNegNoAnsUnknown
  | sdpNegENoActive
  | fmtNotEqual
  deriving DecidableEq

def maxSdpAttr : Nat := 32 * 2 + 4

def maxSdpMedia : Nat := 16

section Attributes

/-- What the source makes of a format or of an attribute's value as a payload type: the digits
    it starts with, as an `unsigned`. -/
def payloadType (text : List UInt8) : Nat := strtoul text % 4294967296

def attrMatches (name : String) (fmt : Option (List UInt8)) (attr : SdpAttr) : Bool :=
  attr.name == pjStr name && fmt.all fun fmt => payloadType attr.value == payloadType fmt

def attrFind (attrs : List SdpAttr) (name : String) (fmt : Option (List UInt8)) : Option SdpAttr :=
  attrs.find? (attrMatches name fmt)

-- A full array keeps what it has: the callers do not look at the status.
def attrAdd (attrs : List SdpAttr) (attr : SdpAttr) : List SdpAttr :=
  if attrs.length < maxSdpAttr then attrs ++ [attr] else attrs

def attrRemoveAll (attrs : List SdpAttr) (name : String) : List SdpAttr :=
  attrs.filter fun attr => attr.name != pjStr name

def attrRemoveFound (attrs : List SdpAttr) (name : String) (fmt : List UInt8) : List SdpAttr :=
  attrs.eraseP (attrMatches name (some fmt))

def removeFormatAttrs (attrs : List SdpAttr) (fmt : List UInt8) : List SdpAttr :=
  attrRemoveFound (attrRemoveFound attrs "rtpmap" fmt) "fmtp" fmt

def SdpMedia.findAttr2 (m : SdpMedia) (name : String) (fmt : Option (List UInt8)) : Option SdpAttr :=
  attrFind m.attr name fmt

end Attributes

section Rtpmap

def isTokenChar (byte : UInt8) : Bool := alnumSpec byte || inStr "!#$%&'*+-.^_\x60\x7b|\x7d~" byte

def slash : UInt8 := 47

def skipWs (text : List UInt8) : List UInt8 := text.dropWhile fun byte => byte == space || byte == tab

/-- What follows the payload type in an `rtpmap`. The callers go on with what was read before a
    syntax error. -/
def encodingOf (text : List UInt8) : SdpRtpmap :=
  let encName := text.takeWhile isTokenChar
  match skipWs (text.dropWhile isTokenChar) with
  | [] => { encName, clockRate := 0, param := [] }
  | byte :: rest =>
    if encName ≠ [] ∧ byte = slash then
      let digits := (skipWs rest).takeWhile isDigit
      let clockRate := strtoul digits % 4294967296
      match skipWs ((skipWs rest).dropWhile isDigit) with
      | [] => { encName, clockRate, param := [] }
      | next :: params =>
        if digits ≠ [] ∧ next = slash then { encName, clockRate, param := skipWs params }
        else { encName, clockRate, param := [] }
    else { encName, clockRate := 0, param := [] }

/-- `pjmedia_sdp_attr_get_rtpmap` of a value that is not empty; of an empty one the source asserts
    that there is none, and reads nothing. -/
def attrGetRtpmap (attr : SdpAttr) : SdpRtpmap :=
  let text := skipWs attr.value
  if text.takeWhile isTokenChar = [] then { encName := [], clockRate := 0, param := [] }
  else encodingOf (skipWs (text.dropWhile isTokenChar))

end Rtpmap

section Media

def mediaDeactivate (m : SdpMedia) : SdpMedia := { m with port := 0, attr := [] }

def defaultConn : SdpConn := { netType := pjStr "IN", addrType := pjStr "IP4", addr := pjStr "127.0.0.1" }

def mediaCloneDeactivate (remMed localMed : SdpMedia) (localSess : SdpSession) : SdpMedia :=
  let res := mediaDeactivate remMed
  if res.conn = none ∧ localSess.conn = none then { res with conn := some (localMed.conn.getD defaultConn) } else res

def transportCmp (t1 t2 : List UInt8) : SdpStatus :=
  let avp := fun transport => pjStricmp transport (pjStr "RTP/AVP") || pjStricmp transport (pjStr "RTP/SAVP")
  if pjStricmp t1 t2 then .success else if avp t1 && avp t2 then .success else .sdpETPortNotEqual

end Media

section Validate

/-- The checks of a function that returns at the first one that fails. -/
def firstFailure : List SdpStatus → SdpStatus
  | [] => .success
  | status :: rest => if status = .success then firstFailure rest else status

def check (holds : Bool) (status : SdpStatus) : SdpStatus := if holds then .success else status

def validateSdpConn (c : SdpConn) : SdpStatus :=
  firstFailure [
    check (c.netType == pjStr "IN") .sdpEInConn,
    check (c.addrType == pjStr "IP4" || c.addrType == pjStr "IP6") .sdpEInConn,
    check (!c.addr.isEmpty) .sdpEInConn]

def isStandard (fmt : List UInt8) : Bool := fmt.head?.any isDigit

def validateFormat (m : SdpMedia) (fmt : List UInt8) : SdpStatus :=
  if isStandard fmt then
    firstFailure [
      check (payloadType fmt ≤ 127) .sdpEInPt,
      check (!(m.port != 0 && 96 ≤ payloadType fmt) || (m.findAttr2 "rtpmap" (some fmt)).isSome) .sdpEMissingRtpmap]
  else .success

def validateMedia (sdp : SdpSession) (strict : Bool) (m : SdpMedia) : SdpStatus :=
  firstFailure [
    check (!m.media.isEmpty) .sdpEInMedia,
    check (!m.transport.isEmpty) .sdpEInMedia,
    check (!m.fmt.isEmpty || m.port == 0) .sdpENoFmt,
    m.conn.elim .success validateSdpConn,
    check (m.conn.isSome || sdp.conn.isSome || !(strict || m.port != 0)) .sdpEMissingConn,
    firstFailure (m.fmt.map (validateFormat m))]

def sdpValidate2 (sdp : SdpSession) (strict : Bool) : SdpStatus :=
  firstFailure [
    check (!sdp.origin.user.isEmpty) .sdpEInOrigin,
    check (sdp.origin.netType == pjStr "IN") .sdpEInOrigin,
    check (sdp.origin.addrType == pjStr "IP4" || sdp.origin.addrType == pjStr "IP6") .sdpEInOrigin,
    check (!sdp.origin.addr.isEmpty) .sdpEInOrigin,
    check (!sdp.name.isEmpty) .sdpEInName,
    sdp.conn.elim .success validateSdpConn,
    firstFailure (sdp.media.map (validateMedia sdp strict))]

def sdpValidate (sdp : SdpSession) : SdpStatus := sdpValidate2 sdp true

end Validate

end TiSIP.Pjmedia
