import TiSIP.Pjsua.Core
import TiSIP.Pjsip.AppendedUri
import TiSIP.Pjsip.UriText

namespace TiSIP.Pjsua

open Dispatch Pjsip

structure AccIdentity where
  display : List UInt8
  userPart : List UInt8
  srvDomain : List UInt8
  srvPort : Int
  isSips : Bool
  deriving DecidableEq

def einvaliduri : PjError := .other 171039

def einvalidscheme : PjError := .other 171040

def parsedSip (option : ParseOption) (string : String) : Option SipUri :=
  (parseNSString option string).bind ParsedUri.sipUri?

def accLocalUri (cfg : AccConfig) : Except PjError AccIdentity :=
  match parseNSString (callerOption true) cfg.id with
  | some (.named { display, uri := .sip url }) =>
    .ok { display, userPart := url.user, srvDomain := url.host, srvPort := 0, isSips := url.sips }
  | some (.named { display, .. }) =>
    .ok { display, userPart := display, srvDomain := [], srvPort := 0, isSips := false }
  | _ => .error einvaliduri

def accRegUri (cfg : AccConfig) : Except PjError (Option SipUri) :=
  if (PJUtil.PJStringWithString cfg.regUri).slen = 0 then .ok none
  else
    match parseNSString (callerOption false) cfg.regUri with
    | none => .error einvaliduri
    | some parsed =>
      match parsed.sipUri? with
      | none => .error einvalidscheme
      | some url => .ok (some url)

def initializeAccUris (cfg : AccConfig) : Except PjError AccIdentity := do
  let acc ← accLocalUri cfg
  match ← accRegUri cfg with
  | none => .ok acc
  | some url => .ok { acc with srvPort := url.port }

theorem accLocalUri_accepts {cfg : AccConfig} {acc : AccIdentity} (accepted : accLocalUri cfg = .ok acc) :
    (parseNSString (callerOption true) cfg.id).isSome := by
  unfold accLocalUri at accepted
  split at accepted
  · rename_i parsed
    simp [parsed]
  · rename_i parsed
    simp [parsed]
  · cases accepted

theorem accRegUri_accepts {cfg : AccConfig} {reg : Option SipUri} (accepted : accRegUri cfg = .ok reg)
    (given : (PJUtil.PJStringWithString cfg.regUri).slen ≠ 0) :
    reg.isSome ∧ parsedSip (callerOption false) cfg.regUri = reg := by
  unfold accRegUri at accepted
  rw [if_neg given] at accepted
  split at accepted
  · cases accepted
  · rename_i parsed reads
    split at accepted
    · cases accepted
    · rename_i url isSip
      obtain rfl := Except.ok.inj accepted
      simp [parsedSip, reads, isSip]

theorem initializeAccUris_parts {cfg : AccConfig} {acc : AccIdentity} (accepted : initializeAccUris cfg = .ok acc) :
    ∃ localPart reg, accLocalUri cfg = .ok localPart ∧ accRegUri cfg = .ok reg := by
  unfold initializeAccUris at accepted
  cases localUri : accLocalUri cfg with
  | error code =>
    rw [localUri] at accepted
    cases accepted
  | ok localPart =>
    cases regUri : accRegUri cfg with
    | error code =>
      rw [localUri, regUri] at accepted
      cases accepted
    | ok reg => exact ⟨localPart, reg, rfl, rfl⟩

end TiSIP.Pjsua
