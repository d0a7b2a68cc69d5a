import TiSIP.Lib.Printing
import TiSIP.Pjlib.Strings
import TiSIP.Pjsip.Parser

namespace TiSIP.Pjsip

open Pjlib Printer
open BytewiseDecoder (utf8)

inductive UriContext
  | inReqUri
  | inFromToHdr
  | inContactHdr
  | inRoutingHdr
  | inOther
  deriving DecidableEq

/-- What of `pjsip_cfg()->endpt` and of the platform the printing depends on. -/
structure UriPrintCfg where
  allowTxHashInUri : Bool
  allowPortInFromToHdr : Bool
  ulongBits : Nat
  wide : 32 ≤ ulongBits

def defaultUriPrintCfg : UriPrintCfg where
  allowTxHashInUri := false
  allowPortInFromToHdr := false
  ulongBits := 32
  wide := le_rfl

section Macros

def copyAdvanceCharCheck (chr : UInt8) : Printer UInt8 Unit := do
  if 1 ≥ (← room) then refuse
  else write [chr]

def copyAdvanceCheck (str : List UInt8) : Printer UInt8 Unit := do
  if str.length ≥ (← room) then refuse
  else write str

def copyAdvancePairCheck (str1 str2 : List UInt8) : Printer UInt8 Unit := do
  if str2 ≠ [] then
    if str1.length + str2.length ≥ (← room) then refuse
    else write (str1 ++ str2)
  else pure ()

def copyAdvancePairQuote (str1 str2 : List UInt8) (quoteBegin quoteEnd : UInt8) : Printer UInt8 Unit := do
  if str1.length + str2.length + 2 ≥ (← room) then refuse
  else write (str1 ++ quoteBegin :: str2 ++ [quoteEnd])

def copyAdvancePairQuoteCond (str1 str2 : List UInt8) (quoteBegin quoteEnd : UInt8) : Printer UInt8 Unit :=
  if str2 ≠ [] ∧ str2.head? ≠ some quoteBegin then copyAdvancePairQuote str1 str2 quoteBegin quoteEnd
  else copyAdvancePairCheck str1 str2

def escapeInto (str : List UInt8) (max : Nat) (unres : UInt8 → Bool) : Printer UInt8 Unit :=
  match strncpy2Escape str max unres with
  | some copied => write copied
  | none => refuse

def copyAdvanceEscape (str : List UInt8) (unres : UInt8 → Bool) : Printer UInt8 Unit := do
  escapeInto str (← room) unres

def copyAdvancePairEscape (str1 str2 : List UInt8) (unres : UInt8 → Bool) : Printer UInt8 Unit := do
  if str2 ≠ [] then
    if str1.length + str2.length ≥ (← room) then refuse
    else
      write str1
      escapeInto str2 (← room) unres
  else pure ()

def UriPrintCfg.unsignedLong (cfg : UriPrintCfg) (value : Int) : Nat := (value % 2 ^ cfg.ulongBits).toNat

def printUtoa (value : Nat) : Printer UInt8 Unit := do
  touch ((pjUtoa value).length + 1)
  write (pjUtoa value)

end Macros

section Print

def paramPrintValue (pvalueSpec : UInt8 → Bool) (p : SipParam) : Printer UInt8 Unit := do
  if p.value ≠ [] then
    copyAdvanceCharCheck equals
    if p.value.head? = some quotation then copyAdvanceCheck p.value
    else copyAdvanceEscape p.value pvalueSpec
  else pure ()

def paramPrintOn (pnameSpec pvalueSpec : UInt8 → Bool) : List SipParam → UInt8 → Printer UInt8 Unit
  | [], _ => pure ()
  | p :: rest, sep => do
    copyAdvanceCharCheck sep
    copyAdvanceEscape p.name pnameSpec
    paramPrintValue pvalueSpec p
    paramPrintOn pnameSpec pvalueSpec rest (if sep = question then ampersand else sep)

def urlScheme (url : SipUri) : List UInt8 := if url.sips then utf8 "sips".toList else utf8 "sip".toList

def UriPrintCfg.userPrintSpec (cfg : UriPrintCfg) : UInt8 → Bool :=
  if cfg.allowTxHashInUri then userSpecLenient else userSpec

def urlPrintPasswd (url : SipUri) : Printer UInt8 Unit := do
  if url.passwd ≠ [] then
    copyAdvanceCharCheck colon
    copyAdvanceEscape url.passwd passwdSpec
  else pure ()

def urlPrintUser (cfg : UriPrintCfg) (url : SipUri) : Printer UInt8 Unit := do
  if url.user ≠ [] then
    copyAdvanceEscape url.user cfg.userPrintSpec
    urlPrintPasswd url
    copyAdvanceCharCheck atSign
  else pure ()

def urlPrintHost (url : SipUri) : Printer UInt8 Unit :=
  if colon ∈ url.host then copyAdvancePairQuoteCond [] url.host leftBracket rightBracket
  else copyAdvanceCheck url.host

def urlPrintPort (cfg : UriPrintCfg) (context : UriContext) (url : SipUri) : Printer UInt8 Unit := do
  if url.port ≠ 0 ∧ (context ≠ .inFromToHdr ∨ cfg.allowPortInFromToHdr = true) then
    if (← room) < 10 then refuse
    else
      copyAdvanceCharCheck colon
      printUtoa (cfg.unsignedLong url.port)
  else pure ()

def urlPrintTtl (cfg : UriPrintCfg) (context : UriContext) (url : SipUri) : Printer UInt8 Unit := do
  if 0 ≤ url.ttlParam ∧ context ≠ .inFromToHdr ∧ context ≠ .inRoutingHdr then
    if (← room) < 15 then refuse
    else
      write (utf8 ";ttl=".toList)
      printUtoa (cfg.unsignedLong url.ttlParam)
  else pure ()

def urlPrintMaddr (context : UriContext) (url : SipUri) : Printer UInt8 Unit :=
  if context ≠ .inFromToHdr ∧ url.maddrParam ≠ [] then
    if colon ∈ url.maddrParam then
      copyAdvancePairQuoteCond (utf8 ";maddr=".toList) url.maddrParam leftBracket rightBracket
    else copyAdvancePairEscape (utf8 ";maddr=".toList) url.maddrParam paramCharSpec
  else pure ()

def urlPrintLr (context : UriContext) (url : SipUri) : Printer UInt8 Unit := do
  if url.lrParam = true ∧ context ≠ .inFromToHdr ∧ context ≠ .inContactHdr then
    if (← room) < 3 then refuse
    else copyAdvanceCheck (utf8 ";lr".toList)
  else pure ()

def urlPrintMethod (context : UriContext) (url : SipUri) : Printer UInt8 Unit :=
  if context = .inOther then copyAdvancePairEscape (utf8 ";method=".toList) url.methodParam paramCharSpec
  else pure ()

def urlPrintTransport (context : UriContext) (url : SipUri) : Printer UInt8 Unit :=
  if context ≠ .inFromToHdr then
    copyAdvancePairEscape (utf8 ";transport=".toList) url.transportParam paramCharSpec
  else pure ()

def urlPrintParams (cfg : UriPrintCfg) (context : UriContext) (url : SipUri) : Printer UInt8 Unit := do
  copyAdvancePairCheck (utf8 ";user=".toList) url.userParam
  urlPrintMethod context url
  urlPrintTransport context url
  urlPrintTtl cfg context url
  urlPrintMaddr context url
  urlPrintLr context url
  paramPrintOn paramCharSpec paramCharSpec url.otherParam semicolon

def urlPrintHeaders (context : UriContext) (url : SipUri) : Printer UInt8 Unit :=
  if context = .inContactHdr ∨ context = .inOther then
    paramPrintOn hdrCharSpec hdrCharSpec url.headerParam question
  else pure ()

def urlPrintText (cfg : UriPrintCfg) (context : UriContext) (url : SipUri) : Printer UInt8 Unit := do
  copyAdvanceCheck (urlScheme url)
  copyAdvanceCharCheck colon
  urlPrintUser cfg url
  urlPrintHost url
  urlPrintPort cfg context url
  urlPrintParams cfg context url
  urlPrintHeaders context url

def urlPrint (cfg : UriPrintCfg) (context : UriContext) (url : SipUri) : Printer UInt8 Unit := do
  touch 1
  urlPrintText cfg context url
  touch 1

end Print

section NameAddr

def nameAddrPrintDisplay (display : List UInt8) : Printer UInt8 Unit := do
  if display ≠ [] then
    if (← room) < display.length + 3 then refuse
    else
      copyAdvanceCharCheck quotation
      copyAdvanceCheck display
      copyAdvanceCharCheck quotation
      copyAdvanceCharCheck space
  else pure ()

def nameAddrPrintOpening (context : UriContext) (display : List UInt8) : Printer UInt8 Unit := do
  if context ≠ .inReqUri then
    nameAddrPrintDisplay display
    copyAdvanceCharCheck less
  else pure ()

def nameAddrPrintClosing (context : UriContext) : Printer UInt8 Unit :=
  if context ≠ .inReqUri then copyAdvanceCharCheck greater
  else pure ()

/-- `pjsip_name_addr_print` for a name-addr with a SIP URL in it; the text of one is never empty. -/
def nameAddrPrint (cfg : UriPrintCfg) (context : UriContext) (display : List UInt8) (url : SipUri) :
    Printer UInt8 Unit := do
  nameAddrPrintOpening context display
  urlPrint cfg context url
  nameAddrPrintClosing context
  touch 1

end NameAddr

end TiSIP.Pjsip
