import TiSIP.Pjsip.UriReading

namespace TiSIP.Pjsip

open Pjlib Scanner Printer
open Pjsua (stricmp)
open BytewiseDecoder (utf8)

section Escapes

/-- What a specification used for printing admits of an escape, and what it never does. -/
structure Escapes (spec : UInt8 → Bool) : Prop where
  ofPercent : spec percent = true
  hex : ∀ byte, isXdigit byte = true → spec byte = true
  noQuotation : spec quotation = false
  noAtSign : spec atSign = false

theorem alnum_of_xdigit (byte : UInt8) (hex : isXdigit byte = true) : alnumSpec byte = true := by
  have all : ∀ byte : Fin 256, isXdigit (UInt8.ofFin byte) = true → alnumSpec (UInt8.ofFin byte) = true := by
    decide +kernel
  exact all byte.toFin hex

theorem escapes_paramChar : Escapes paramCharSpec where
  ofPercent := by decide
  hex byte hex := by simp [paramCharSpec, alnum_of_xdigit byte hex]
  noQuotation := by decide
  noAtSign := by decide

theorem escapes_hdrChar : Escapes hdrCharSpec where
  ofPercent := by decide
  hex byte hex := by simp [hdrCharSpec, alnum_of_xdigit byte hex]
  noQuotation := by decide
  noAtSign := by decide

theorem escapes_passwd : Escapes passwdSpec where
  ofPercent := by decide
  hex byte hex := by simp [passwdSpec, alnum_of_xdigit byte hex]
  noQuotation := by decide
  noAtSign := by decide

theorem escapes_user (cfg : UriPrintCfg) : Escapes cfg.userPrintSpec := by
  unfold UriPrintCfg.userPrintSpec
  split
  · exact ⟨by decide, fun byte hex => by simp [userSpecLenient, userSpec, alnum_of_xdigit byte hex], by decide, by decide⟩
  · exact ⟨by decide, fun byte hex => by simp [userSpec, alnum_of_xdigit byte hex], by decide, by decide⟩

variable {spec : UInt8 → Bool} (escapes : Escapes spec)

include escapes

theorem Escapes.unescape (src : List UInt8) : strUnescape (escape spec src) = strUnescape src :=
  strUnescape_escape escapes.ofPercent escapes.hex src

theorem Escapes.admitted (src : List UInt8) : ∀ byte ∈ escape spec src, spec byte = true :=
  escape_admitted (fun _ plain => plain) escapes.ofPercent escapes.hex

theorem Escapes.unquoted {src : List UInt8} : (escape spec src).head? ≠ some quotation := by
  intro next
  have refused := escapes.admitted src quotation (List.mem_of_head? next)
  rw [escapes.noQuotation] at refused
  cases refused

end Escapes

section Written

def SipParam.escaped (spec : UInt8 → Bool) (param : SipParam) : SipParam where
  name := escape spec param.name
  value := if param.value.head? = some quotation then param.value else escape spec param.value

theorem read_escaped {spec : UInt8 → Bool} (escapes : Escapes spec) (param : SipParam) :
    (param.escaped spec).read = param.read := by
  unfold SipParam.escaped SipParam.read readValue
  dsimp only
  rw [escapes.unescape]
  congr 1
  split
  · rfl
  · rw [if_neg escapes.unquoted, escapes.unescape]

theorem wellWritten_escaped {spec : UInt8 → Bool} (escapes : Escapes spec) {param : SipParam} (named : param.name ≠ [])
    (quoted : param.value.head? = some quotation → Quoted param.value) : WellWritten spec (param.escaped spec) := by
  constructor
  · exact escape_ne_nil named
  · exact escapes.admitted _
  · intro unquoted
    unfold SipParam.escaped at unquoted ⊢
    dsimp only at unquoted ⊢
    split_ifs at unquoted ⊢ with copied
    · exact absurd copied unquoted
    · exact escapes.admitted _
  · intro starts
    unfold SipParam.escaped at starts ⊢
    dsimp only at starts ⊢
    split_ifs at starts ⊢ with copied
    · exact quoted copied
    · exact absurd starts escapes.unquoted

theorem textOf_escaped (spec : UInt8 → Bool) (src : List UInt8) : textOf (escaped spec src) = escape spec src := by
  unfold escaped
  split
  · rename_i empty
    simp [empty]
  · simp

theorem textOf_param (spec : UInt8 → Bool) (params : List SipParam) (sep : UInt8) :
    textOf (paramPieces spec spec params sep) =
      match params with
      | [] => []
      | first :: others => (first.escaped spec).written sep ++
          (others.map (SipParam.escaped spec)).flatMap
            (SipParam.written (if sep = question then ampersand else sep)) := by
  induction params generalizing sep with
  | nil => rfl
  | cons first others ih =>
    have fixed : (if (if sep = question then ampersand else sep) = question then ampersand
        else if sep = question then ampersand else sep) = if sep = question then ampersand else sep := by
      split_ifs <;> rfl
    have rest : textOf (paramPieces spec spec others (if sep = question then ampersand else sep)) =
        (others.map (SipParam.escaped spec)).flatMap (SipParam.written (if sep = question then ampersand else sep)) := by
      rw [ih]
      cases others with
      | nil => rfl
      | cons other later => simp only [fixed, List.map_cons, List.flatMap_cons]
    simp only [paramPieces, textOf_cons, textOf_append, textOf_escaped, rest, SipParam.written, SipParam.escaped, guarded]
    by_cases empty : first.value = []
    · simp [empty]
    · by_cases quoted : first.value.head? = some quotation
      · simp [empty, quoted]
      · simp [empty, quoted, textOf_escaped, escape_ne_nil empty]

theorem textOf_otherParams (params : List SipParam) :
    textOf (paramPieces paramCharSpec paramCharSpec params semicolon) =
      (params.map (SipParam.escaped paramCharSpec)).flatMap (SipParam.written semicolon) := by
  rw [textOf_param]
  cases params with
  | nil => rfl
  | cons first others =>
    have sep : (if semicolon = question then ampersand else semicolon) = semicolon := by decide
    rw [sep]
    rfl

theorem textOf_headers (headers : List SipParam) :
    textOf (paramPieces hdrCharSpec hdrCharSpec headers question) =
      headersWritten (headers.map (SipParam.escaped hdrCharSpec)) := by
  rw [textOf_param]
  cases headers with
  | nil => rfl
  | cons first others => rfl

end Written

section Params

def named (name : String) (value : List UInt8) : List SipParam :=
  if value ≠ [] then [{ name := utf8 name.toList, value }] else []

/-- An address with a colon in it is written in brackets, unless it starts with one. -/
def bracketed (maddr : List UInt8) : List UInt8 :=
  if colon ∈ maddr ∧ maddr.head? ≠ some leftBracket then leftBracket :: (maddr ++ [rightBracket]) else maddr

def maddrWritten (maddr : List UInt8) : List UInt8 :=
  if colon ∈ maddr then bracketed maddr else escape paramCharSpec maddr

variable (context : UriContext) (url : SipUri)

def PrintsLr : Prop := url.lrParam = true ∧ context ≠ .inFromToHdr ∧ context ≠ .inContactHdr

instance : Decidable (PrintsLr context url) := inferInstanceAs (Decidable (_ ∧ _))

def urlParams : List SipParam :=
  named "user" url.userParam ++
    ((if context = .inOther then named "method" (escape paramCharSpec url.methodParam) else []) ++
    ((if context ≠ .inFromToHdr then named "transport" (escape paramCharSpec url.transportParam) else []) ++
    ((if PrintsTtl context url then named "ttl" (pjUtoa url.ttlParam.toNat) else []) ++
    ((if context ≠ .inFromToHdr then named "maddr" (maddrWritten url.maddrParam) else []) ++
    ((if PrintsLr context url then [{ name := utf8 "lr".toList, value := [] }] else []) ++
      url.otherParam.map (SipParam.escaped paramCharSpec))))))

theorem textOf_named (label name : String) (same : utf8 label.toList = semicolon :: (utf8 name.toList ++ [equals]))
    (value : List UInt8) :
    (named name value).flatMap (SipParam.written semicolon) =
      if value ≠ [] then utf8 label.toList ++ value else [] := by
  unfold named
  split
  · rename_i nonempty
    simp [SipParam.written, nonempty, same]
  · rfl

theorem textOf_pair (str1 str2 : List UInt8) :
    textOf (pairPieces str1 str2) = if str2 ≠ [] then str1 ++ str2 else [] := by
  unfold pairPieces
  split <;> simp [guarded]

theorem textOf_escapedPair (str1 str2 : List UInt8) (unres : UInt8 → Bool) :
    textOf (escapedPairPieces str1 str2 unres) = if escape unres str2 ≠ [] then str1 ++ escape unres str2 else [] := by
  unfold escapedPairPieces
  by_cases empty : str2 = []
  · simp [empty]
  · simp [empty, escape_ne_nil empty]

theorem textOf_maddr (label maddr : List UInt8) (nonempty : maddr ≠ []) :
    textOf (if colon ∈ maddr then quotePieces label maddr leftBracket rightBracket
      else escapedPairPieces label maddr paramCharSpec) = label ++ maddrWritten maddr := by
  unfold maddrWritten bracketed quotePieces
  by_cases address : colon ∈ maddr
  · by_cases starts : maddr.head? = some leftBracket
    · simp [address, starts, textOf_pair, nonempty]
    · simp [address, starts, nonempty, guarded]
  · simp [address, textOf_escapedPair, escape_ne_nil nonempty]

theorem maddrWritten_ne_nil {maddr : List UInt8} (nonempty : maddr ≠ []) : maddrWritten maddr ≠ [] := by
  unfold maddrWritten bracketed
  split_ifs
  · simp
  · exact nonempty
  · exact escape_ne_nil nonempty

theorem textOf_urlParams :
    textOf (urlParamPieces context url) = (urlParams context url).flatMap (SipParam.written semicolon) := by
  have user : textOf (pairPieces (utf8 ";user=".toList) url.userParam) =
      (named "user" url.userParam).flatMap (SipParam.written semicolon) := by
    rw [textOf_pair, textOf_named ";user=" "user" (by decide)]
  have method : textOf (if context = .inOther then
        escapedPairPieces (utf8 ";method=".toList) url.methodParam paramCharSpec else []) =
      (if context = .inOther then named "method" (escape paramCharSpec url.methodParam) else []).flatMap
        (SipParam.written semicolon) := by
    split
    · rw [textOf_escapedPair, textOf_named ";method=" "method" (by decide)]
    · rfl
  have transport : textOf (if context ≠ .inFromToHdr then
        escapedPairPieces (utf8 ";transport=".toList) url.transportParam paramCharSpec else []) =
      (if context ≠ .inFromToHdr then named "transport" (escape paramCharSpec url.transportParam) else []).flatMap
        (SipParam.written semicolon) := by
    split
    · rw [textOf_escapedPair, textOf_named ";transport=" "transport" (by decide)]
    · rfl
  have ttl : textOf (ttlPieces context url) =
      (if PrintsTtl context url then named "ttl" (pjUtoa url.ttlParam.toNat) else []).flatMap
        (SipParam.written semicolon) := by
    unfold ttlPieces
    split
    · rw [textOf_named ";ttl=" "ttl" (by decide), if_pos (pjUtoa_ne_nil _)]
      simp [numberPiece]
    · rfl
  have maddr : textOf (maddrPieces context url) =
      (if context ≠ .inFromToHdr then named "maddr" (maddrWritten url.maddrParam) else []).flatMap
        (SipParam.written semicolon) := by
    unfold maddrPieces
    by_cases given : url.maddrParam = []
    · have none : maddrWritten [] = [] := by decide
      simp [given, none, named]
    · by_cases allowed : context = .inFromToHdr
      · simp [allowed]
      · rw [if_pos ⟨allowed, given⟩, if_pos allowed, textOf_maddr _ _ given, textOf_named ";maddr=" "maddr" (by decide),
          if_pos (maddrWritten_ne_nil given)]
  have lr : textOf (lrPieces context url) =
      (if PrintsLr context url then [({ name := utf8 "lr".toList, value := [] } : SipParam)] else []).flatMap
        (SipParam.written semicolon) := by
    unfold lrPieces
    by_cases printed : PrintsLr context url
    · rw [if_pos printed, if_pos (show _ ∧ _ from printed)]
      decide
    · rw [if_neg printed, if_neg (show ¬ (_ ∧ _) from printed)]
      rfl
  simp only [urlParamPieces, urlParams, textOf_append, List.flatMap_append, user, method, transport, ttl, maddr, lr,
    textOf_otherParams]

end Params

section Printable

def SipParam.Other (param : SipParam) : Prop :=
  stricmp param.name "lr" = false ∧ (param.value ≠ [] →
    ∀ name ∈ ["user", "method", "transport", "ttl", "maddr"], stricmp param.name name = false)

instance (param : SipParam) : Decidable param.Other := inferInstanceAs (Decidable (_ ∧ _))

/-- What the parts of a URL must be for its text to be read back. -/
structure SipUri.Printable (url : SipUri) : Prop where
  range : url.InRange
  host : WellWrittenHost url.host
  userParam : ∀ byte ∈ url.userParam, paramCharSpec byte = true
  maddrParam : colon ∈ url.maddrParam → ∀ byte ∈ url.maddrParam, paramCharSpec byte = true
  otherNamed : ∀ param ∈ url.otherParam, param.name ≠ []
  otherQuoted : ∀ param ∈ url.otherParam, param.value.head? = some quotation →
    Quoted param.value ∧ atSign ∉ param.value
  other : ∀ param ∈ url.otherParam, param.read.Other
  headerNamed : ∀ header ∈ url.headerParam, header.name ≠ []
  headerUnquoted : ∀ header ∈ url.headerParam, header.value.head? ≠ some quotation

variable {context : UriContext} {url : SipUri}

theorem wellWritten_named {name : String} {value : List UInt8} (nameNe : utf8 name.toList ≠ [])
    (nameAdmitted : ∀ byte ∈ utf8 name.toList, paramCharSpec byte = true)
    (admitted : ∀ byte ∈ value, paramCharSpec byte = true) :
    ∀ param ∈ named name value, WellWritten paramCharSpec param ∧ param.value.head? ≠ some quotation := by
  intro param member
  have unquoted : value.head? ≠ some quotation := by
    intro next
    have refused := admitted quotation (List.mem_of_head? next)
    rw [escapes_paramChar.noQuotation] at refused
    cases refused
  unfold named at member
  split_ifs at member with nonempty
  · rw [List.mem_singleton.mp member]
    exact ⟨⟨nameNe, nameAdmitted, fun _ => admitted, fun quoted => absurd quoted unquoted⟩, unquoted⟩
  · cases member

theorem maddrWritten_admitted (printable : url.Printable) :
    ∀ byte ∈ maddrWritten url.maddrParam, paramCharSpec byte = true := by
  unfold maddrWritten bracketed
  split_ifs with address starts
  · intro byte member
    have brackets : paramCharSpec leftBracket = true ∧ paramCharSpec rightBracket = true := by decide
    simp only [List.mem_cons, List.mem_append, List.not_mem_nil, or_false] at member
    rcases member with rfl | inside | rfl
    · exact brackets.1
    · exact printable.maddrParam address byte inside
    · exact brackets.2
  · exact printable.maddrParam address
  · exact escapes_paramChar.admitted _

theorem isDigit_admitted (byte : UInt8) (digit : isDigit byte = true) : paramCharSpec byte = true := by
  simp [paramCharSpec, alnumSpec, digit]

theorem urlParams_wellWritten (printable : url.Printable) :
    ∀ param ∈ urlParams context url, WellWritten paramCharSpec param ∧ atSign ∉ param.value := by
  have noAt : ∀ {text : List UInt8}, (∀ byte ∈ text, paramCharSpec byte = true) → atSign ∉ text := by
    intro text admitted member
    have refused := admitted atSign member
    rw [escapes_paramChar.noAtSign] at refused
    cases refused
  have plain : ∀ {name : String} {value : List UInt8}, utf8 name.toList ≠ [] →
      (∀ byte ∈ utf8 name.toList, paramCharSpec byte = true) → (∀ byte ∈ value, paramCharSpec byte = true) →
      ∀ param ∈ named name value, WellWritten paramCharSpec param ∧ atSign ∉ param.value := by
    intro name value nameNe nameAdmitted admitted param member
    obtain ⟨well, unquoted⟩ := wellWritten_named nameNe nameAdmitted admitted param member
    exact ⟨well, noAt (well.value_admitted unquoted)⟩
  intro param member
  simp only [urlParams, List.mem_append, List.mem_ite_nil_right] at member
  rcases member with user | ⟨-, method⟩ | ⟨-, transport⟩ | ⟨-, ttl⟩ | ⟨-, maddr⟩ | ⟨-, lr⟩ | other
  · exact plain (by decide +kernel) (by decide +kernel) printable.userParam param user
  · exact plain (by decide +kernel) (by decide +kernel) (escapes_paramChar.admitted _) param method
  · exact plain (by decide +kernel) (by decide +kernel) (escapes_paramChar.admitted _) param transport
  · exact plain (by decide +kernel) (by decide +kernel) (fun byte member => isDigit_admitted byte (pjUtoa_digits _ byte member)) param ttl
  · exact plain (by decide +kernel) (by decide +kernel) (maddrWritten_admitted printable) param maddr
  · rw [List.mem_singleton.mp lr]
    exact ⟨⟨by decide +kernel, by decide +kernel, by decide +kernel, by decide +kernel⟩, by decide +kernel⟩
  · obtain ⟨original, held, rfl⟩ := List.mem_map.mp other
    have well := wellWritten_escaped escapes_paramChar (printable.otherNamed original held)
      fun quoted => (printable.otherQuoted original held quoted).1
    constructor
    · exact well
    · by_cases quoted : original.value.head? = some quotation
      · simpa [SipParam.escaped, quoted] using (printable.otherQuoted original held quoted).2
      · simpa [SipParam.escaped, quoted] using noAt (escapes_paramChar.admitted original.value)

end Printable

section Arrives

variable (cfg : UriPrintCfg) (context : UriContext) (url : SipUri)

/-- The URL that is read from the text: without the parts the context leaves out, and with escapes resolved. -/
def SipUri.arrives : SipUri where
  sips := url.sips
  user := strUnescape url.user
  passwd := if url.user ≠ [] then strUnescape url.passwd else []
  host := url.host
  port := if PrintsPort cfg context url then url.port else 0
  userParam := strUnescape url.userParam
  methodParam := if context = .inOther then strUnescape url.methodParam else []
  transportParam := if context ≠ .inFromToHdr then strUnescape url.transportParam else []
  ttlParam := if PrintsTtl context url then url.ttlParam else -1
  lrParam := decide (PrintsLr context url)
  maddrParam := if context ≠ .inFromToHdr then strUnescape (bracketed url.maddrParam) else []
  otherParam := url.otherParam.map SipParam.read
  headerParam := if context = .inContactHdr ∨ context = .inOther then url.headerParam.map SipParam.read else []

variable {cfg context url}

def SipUri.take (url : SipUri) (param : SipParam) : SipUri := url.setParam param.read

theorem readValue_admitted {value : List UInt8} (admitted : ∀ byte ∈ value, paramCharSpec byte = true) :
    readValue value = strUnescape value := by
  unfold readValue
  rw [if_neg]
  intro next
  have refused := admitted quotation (List.mem_of_head? next)
  rw [escapes_paramChar.noQuotation] at refused
  cases refused

theorem strUnescape_ne_nil {text : List UInt8} (nonempty : text ≠ []) : strUnescape text ≠ [] := by
  rcases text with _ | ⟨first, _ | ⟨second, _ | ⟨third, rest⟩⟩⟩
  · exact absurd rfl nonempty
  · simp [strUnescape]
  · simp [strUnescape]
  · unfold strUnescape
    split_ifs <;> simp

theorem foldl_named {name : String} {value : List UInt8} {set : List UInt8 → SipUri}
    (admitted : ∀ byte ∈ value, paramCharSpec byte = true)
    (sets : ∀ value, value ≠ [] → url.setParam { name := strUnescape (utf8 name.toList), value } = set value)
    (unset : set [] = url) : (named name value).foldl SipUri.take url = set (strUnescape value) := by
  unfold named
  by_cases empty : value = []
  · rw [if_neg (by simpa using empty), empty]
    exact unset.symm
  · rw [if_pos empty, List.foldl_cons, List.foldl_nil, SipUri.take, SipParam.read, readValue_admitted admitted]
    exact sets _ (strUnescape_ne_nil empty)

theorem setParam_other {param : SipParam} (other : param.Other) (url : SipUri) :
    url.setParam param = { url with otherParam := url.otherParam ++ [param] } := by
  obtain ⟨notLr, notNamed⟩ := other
  have apart : ∀ name ∈ ["user", "method", "transport", "ttl", "maddr"],
      ¬ (stricmp param.name name && decide (param.value ≠ [])) = true := by
    intro name member both
    obtain ⟨same, given⟩ := Bool.and_eq_true_iff.mp both
    rw [notNamed (of_decide_eq_true given) name member] at same
    cases same
  unfold SipUri.setParam
  rw [if_neg (apart "user" (by simp)), if_neg (apart "method" (by simp)), if_neg (apart "transport" (by simp)),
    if_neg (apart "ttl" (by simp)), if_neg (apart "maddr" (by simp)), if_neg (by simp [notLr])]

theorem foldl_other {params : List SipParam} (other : ∀ param ∈ params, param.read.Other) (url : SipUri) :
    (params.map (SipParam.escaped paramCharSpec)).foldl SipUri.take url =
      { url with otherParam := url.otherParam ++ params.map SipParam.read } := by
  induction params generalizing url with
  | nil => simp
  | cons param params ih =>
    rw [List.map_cons, List.foldl_cons, SipUri.take, read_escaped escapes_paramChar,
      setParam_other (other param List.mem_cons_self), ih fun later member => other later (List.mem_cons_of_mem _ member)]
    simp

theorem foldl_headers (headers : List SipParam) (url : SipUri) :
    (headers.map (SipParam.escaped hdrCharSpec)).foldl SipUri.addHeader url =
      { url with headerParam := url.headerParam ++ headers.map SipParam.read } := by
  induction headers generalizing url with
  | nil => simp
  | cons header headers ih =>
    rw [List.map_cons, List.foldl_cons, SipUri.addHeader, read_escaped escapes_hdrChar, ih]
    simp

section Fields

variable {name value : List UInt8} (given : value ≠ []) (url : SipUri)

include given

theorem setParam_user (same : stricmp name "user" = true) :
    url.setParam { name, value } = { url with userParam := value } := by
  simp [SipUri.setParam, same, given]

theorem setParam_method (same : stricmp name "method" = true) (apart : stricmp name "user" = false) :
    url.setParam { name, value } = { url with methodParam := value } := by
  simp [SipUri.setParam, same, apart, given]

theorem setParam_transportParam (same : stricmp name "transport" = true)
    (apart : stricmp name "user" = false ∧ stricmp name "method" = false) :
    url.setParam { name, value } = { url with transportParam := value } := by
  simp [SipUri.setParam, same, apart, given]

theorem setParam_ttl (same : stricmp name "ttl" = true)
    (apart : stricmp name "user" = false ∧ stricmp name "method" = false ∧ stricmp name "transport" = false) :
    url.setParam { name, value } = { url with ttlParam := strtoulInt value } := by
  simp [SipUri.setParam, same, apart, given]

theorem setParam_maddr (same : stricmp name "maddr" = true)
    (apart : stricmp name "user" = false ∧ stricmp name "method" = false ∧ stricmp name "transport" = false ∧
      stricmp name "ttl" = false) :
    url.setParam { name, value } = { url with maddrParam := value } := by
  simp [SipUri.setParam, same, apart, given]

end Fields

theorem strUnescape_digits {text : List UInt8} (digits : ∀ byte ∈ text, isDigit byte = true) :
    strUnescape text = text := by
  induction text with
  | nil => rfl
  | cons byte text ih =>
    have plain : byte ≠ percent := by
      rintro rfl
      exact absurd (digits percent List.mem_cons_self) (by decide)
    rw [strUnescape_cons fun same => absurd same plain, ih fun other member => digits other (List.mem_cons_of_mem _ member)]

theorem strUnescape_maddrWritten (maddr : List UInt8) : strUnescape (maddrWritten maddr) = strUnescape (bracketed maddr) := by
  unfold maddrWritten
  split
  · rfl
  · rename_i plain
    rw [escapes_paramChar.unescape, bracketed, if_neg fun both => plain both.1]

theorem take_ttl (fresh : SipUri) {ttl : Int} (nonneg : 0 ≤ ttl) (small : ttl < 2 ^ 31) :
    (named "ttl" (pjUtoa ttl.toNat)).foldl SipUri.take fresh = { fresh with ttlParam := ttl } := by
  have digits := pjUtoa_digits ttl.toNat
  have back : strtoulInt (pjUtoa ttl.toNat) = ttl := by
    rw [strtoulInt_pjUtoa (by omega)]
    omega
  have name : stricmp (strUnescape (utf8 "ttl".toList)) "ttl" = true := by decide
  have apart : stricmp (strUnescape (utf8 "ttl".toList)) "user" = false ∧
    stricmp (strUnescape (utf8 "ttl".toList)) "method" = false ∧
    stricmp (strUnescape (utf8 "ttl".toList)) "transport" = false := by decide
  unfold named
  rw [if_pos (pjUtoa_ne_nil _), List.foldl_cons, List.foldl_nil, SipUri.take, SipParam.read,
    readValue_admitted fun byte member => isDigit_admitted byte (digits byte member), strUnescape_digits digits,
    setParam_ttl (pjUtoa_ne_nil _) fresh name apart, back]

theorem foldl_urlParams (printable : url.Printable) (fresh : SipUri) (noUser : fresh.userParam = [])
    (noMethod : fresh.methodParam = []) (noTransport : fresh.transportParam = []) (noTtl : fresh.ttlParam = -1)
    (noLr : fresh.lrParam = false) (noMaddr : fresh.maddrParam = []) (noOther : fresh.otherParam = []) :
    (urlParams context url).foldl SipUri.take fresh =
      { fresh with
        userParam := strUnescape url.userParam
        methodParam := if context = .inOther then strUnescape url.methodParam else []
        transportParam := if context ≠ .inFromToHdr then strUnescape url.transportParam else []
        ttlParam := if PrintsTtl context url then url.ttlParam else -1
        lrParam := decide (PrintsLr context url)
        maddrParam := if context ≠ .inFromToHdr then strUnescape (bracketed url.maddrParam) else []
        otherParam := url.otherParam.map SipParam.read } := by
  have user : ∀ next : SipUri, next.userParam = [] →
      (named "user" url.userParam).foldl SipUri.take next = { next with userParam := strUnescape url.userParam } :=
    fun next empty => foldl_named printable.userParam (fun value given => setParam_user given next (by decide))
      (by rw [← empty])
  have method : ∀ next : SipUri, next.methodParam = [] →
      (if context = .inOther then named "method" (escape paramCharSpec url.methodParam) else []).foldl SipUri.take next =
        { next with methodParam := if context = .inOther then strUnescape url.methodParam else [] } := by
    intro next empty
    split_ifs
    · rw [← escapes_paramChar.unescape]
      exact foldl_named (escapes_paramChar.admitted _)
        (fun value given => setParam_method given next (by decide) (by decide)) (by rw [← empty])
    · rw [← empty]
      rfl
  have transport : ∀ next : SipUri, next.transportParam = [] →
      (if context ≠ .inFromToHdr then named "transport" (escape paramCharSpec url.transportParam) else []).foldl
        SipUri.take next =
        { next with transportParam := if context ≠ .inFromToHdr then strUnescape url.transportParam else [] } := by
    intro next empty
    split_ifs
    · rw [← escapes_paramChar.unescape]
      exact foldl_named (escapes_paramChar.admitted _)
        (fun value given => setParam_transportParam given next (by decide) (by decide)) (by rw [← empty])
    · rw [← empty]
      rfl
  have ttl : ∀ next : SipUri, next.ttlParam = -1 →
      (if PrintsTtl context url then named "ttl" (pjUtoa url.ttlParam.toNat) else []).foldl SipUri.take next =
        { next with ttlParam := if PrintsTtl context url then url.ttlParam else -1 } := by
    intro next empty
    have small := printable.range.ttl_lt
    split_ifs with printed
    · exact take_ttl next printed.1 (by omega)
    · rw [← empty]
      rfl
  have maddr : ∀ next : SipUri, next.maddrParam = [] →
      (if context ≠ .inFromToHdr then named "maddr" (maddrWritten url.maddrParam) else []).foldl SipUri.take next =
        { next with maddrParam := if context ≠ .inFromToHdr then strUnescape (bracketed url.maddrParam) else [] } := by
    intro next empty
    split_ifs
    · rw [← strUnescape_maddrWritten]
      exact foldl_named (maddrWritten_admitted printable)
        (fun value given => setParam_maddr given next (by decide) (by decide)) (by rw [← empty])
    · rw [← empty]
      rfl
  have lr : ∀ next : SipUri, next.lrParam = false →
      (if PrintsLr context url then [({ name := utf8 "lr".toList, value := [] } : SipParam)] else []).foldl
        SipUri.take next = { next with lrParam := decide (PrintsLr context url) } := by
    intro next empty
    by_cases printed : PrintsLr context url
    · rw [if_pos printed, decide_eq_true printed]
      rfl
    · rw [if_neg printed, decide_eq_false printed, ← empty]
      rfl
  rw [urlParams, List.foldl_append, user, List.foldl_append, method, List.foldl_append, transport, List.foldl_append,
    ttl, List.foldl_append, maddr, List.foldl_append, lr, foldl_other printable.other]
  · simp only [noOther, List.nil_append]
  · exact noLr
  · exact noMaddr
  · exact noTtl
  · exact noTransport
  · exact noMethod
  · exact noUser

end Arrives

section Text

variable (cfg : UriPrintCfg) (context : UriContext) (url : SipUri)

def userText : List UInt8 :=
  if url.user ≠ [] then userWritten (escape cfg.userPrintSpec url.user) (escape passwdSpec url.passwd) else []

def portPrinted : Nat := if PrintsPort cfg context url then url.port.toNat else 0

def urlHeaders : List SipParam :=
  if context = .inContactHdr ∨ context = .inOther then url.headerParam.map (SipParam.escaped hdrCharSpec) else []

def restText : List UInt8 :=
  hostWritten url.host ++ portWritten (portPrinted cfg context url) ++
    ((urlParams context url).flatMap (SipParam.written semicolon) ++ (headersWritten (urlHeaders context url) ++ []))

variable {cfg context url}

theorem textOf_user : textOf (userPieces cfg url) = userText cfg url := by
  unfold userPieces userText
  split
  · rw [textOf_append, textOf_append, textOf_escaped, userWritten]
    by_cases empty : url.passwd = []
    · simp [empty, guarded]
    · simp [empty, escape_ne_nil empty, textOf_escaped, guarded]
  · rfl

theorem textOf_host (well : WellWrittenHost url.host) : textOf (hostPieces url) = hostWritten url.host := by
  unfold hostPieces hostWritten quotePieces
  by_cases address : colon ∈ url.host
  · have plain : url.host.head? ≠ some leftBracket := fun next =>
      (well.bracketed leftBracket (List.mem_of_head? next)).2.1 rfl
    simp [address, well.ne_nil, plain, guarded]
  · simp [address, guarded]

theorem textOf_port (range : url.InRange) :
    textOf (portPieces cfg context url) = portWritten (portPrinted cfg context url) := by
  unfold portPieces portWritten portPrinted
  by_cases printed : PrintsPort cfg context url
  · have nonzero := printed.1
    have nonneg := range.port_nonneg
    rw [if_pos printed, if_pos printed, if_pos (by omega)]
    simp [numberPiece]
  · simp [printed]

theorem urlText_eq (printable : url.Printable) :
    urlText cfg context url = schemeWritten url.sips ++ (userText cfg url ++ restText cfg context url) := by
  have headers : textOf (headerPieces context url) = headersWritten (urlHeaders context url) := by
    unfold headerPieces urlHeaders
    split
    · exact textOf_headers _
    · rfl
  simp only [urlText, urlPieces, textOf_append, textOf_user, textOf_host printable.host, textOf_port printable.range,
    textOf_urlParams, headers, restText, textOf_cons, textOf_nil, guarded, schemeWritten, urlScheme, List.append_nil,
    List.append_assoc]

end Text

section NoUser

variable {cfg : UriPrintCfg} {context : UriContext} {url : SipUri}

theorem atSign_notMem_written {spec : UInt8 → Bool} (escapes : Escapes spec) {param : SipParam} {sep : UInt8}
    (apart : atSign ≠ sep) (well : WellWritten spec param) (value : atSign ∉ param.value) :
    atSign ∉ param.written sep := by
  have name : atSign ∉ param.name := by
    intro member
    have refused := well.name_admitted atSign member
    rw [escapes.noAtSign] at refused
    cases refused
  have differs : atSign ≠ equals := by decide
  unfold SipParam.written
  split <;> simp [apart, name, value, differs]

theorem wellWritten_headers (printable : url.Printable) :
    ∀ header ∈ urlHeaders context url, WellWrittenHeader header := by
  intro header member
  unfold urlHeaders at member
  split_ifs at member
  · obtain ⟨original, held, rfl⟩ := List.mem_map.mp member
    have unquoted := printable.headerUnquoted original held
    constructor
    · exact wellWritten_escaped escapes_hdrChar (printable.headerNamed original held) fun quoted => absurd quoted unquoted
    · simpa [SipParam.escaped, unquoted] using escapes_hdrChar.unquoted
  · cases member

theorem atSign_notMem_headers {headers : List SipParam} (well : ∀ header ∈ headers, WellWrittenHeader header) :
    atSign ∉ headersWritten headers := by
  have each : ∀ header ∈ headers, ∀ sep : UInt8, atSign ≠ sep → atSign ∉ header.written sep := by
    intro header member sep apart
    apply atSign_notMem_written escapes_hdrChar apart (well header member).written
    intro inside
    have refused := (well header member).written.value_admitted (well header member).unquoted atSign inside
    rw [escapes_hdrChar.noAtSign] at refused
    cases refused
  cases headers with
  | nil => simp [headersWritten]
  | cons first others =>
    rw [headersWritten, List.mem_append, not_or]
    constructor
    · exact each first List.mem_cons_self question (by decide)
    · intro member
      obtain ⟨other, held, inside⟩ := List.mem_flatMap.mp member
      exact each other (List.mem_cons_of_mem _ held) ampersand (by decide) inside

theorem atSign_notMem_rest (printable : url.Printable) : atSign ∉ restText cfg context url := by
  have host : atSign ∉ hostWritten url.host := by
    have inside : atSign ∉ url.host := fun member => (printable.host.bracketed atSign member).2.2 rfl
    have brackets : atSign ≠ leftBracket ∧ atSign ≠ rightBracket := by decide
    unfold hostWritten
    split <;> simp [inside, brackets]
  have port : atSign ∉ portWritten (portPrinted cfg context url) := by
    have mark : atSign ≠ colon := by decide
    have digits : atSign ∉ pjUtoa (portPrinted cfg context url) := fun member =>
      absurd (pjUtoa_digits _ atSign member) (by decide)
    unfold portWritten
    split <;> simp [mark, digits]
  have params : atSign ∉ (urlParams context url).flatMap (SipParam.written semicolon) := by
    intro member
    obtain ⟨param, held, inside⟩ := List.mem_flatMap.mp member
    obtain ⟨well, value⟩ := urlParams_wellWritten printable param held
    exact atSign_notMem_written escapes_paramChar (by decide) well value inside
  have headers : atSign ∉ headersWritten (urlHeaders context url) :=
    atSign_notMem_headers (wellWritten_headers printable)
  simp only [restText, List.append_nil, List.mem_append, not_or]
  exact ⟨⟨host, port⟩, params, headers⟩

theorem probe_absent {text rest : List UInt8} (absent : atSign ∉ text) (follows : Follows [greater] rest) :
    ((text ++ rest).dropWhile probeUserHostSpec).head? ≠ some atSign := by
  induction text with
  | nil =>
    have stop : ¬ probeUserHostSpec greater = true := by decide
    cases rest with
    | nil => simp
    | cons byte rest =>
      have same : byte = greater := List.mem_singleton.mp (follows byte rfl)
      rw [same, List.nil_append, List.dropWhile_cons_of_neg stop]
      exact fun next => absurd (Option.some.inj next) (by decide)
  | cons byte text ih =>
    rw [List.mem_cons, not_or] at absent
    by_cases probed : probeUserHostSpec byte = true
    · rw [List.cons_append, List.dropWhile_cons_of_pos probed]
      exact ih absent.2
    · rw [List.cons_append, List.dropWhile_cons_of_neg probed]
      intro next
      exact absent.1 (Option.some.inj next).symm

end NoUser

section RoundTrip

variable {cfg : UriPrintCfg} {context : UriContext} {url : SipUri}

theorem userSpecLenient_of_print (byte : UInt8) (admitted : cfg.userPrintSpec byte = true) :
    userSpecLenient byte = true := by
  unfold UriPrintCfg.userPrintSpec at admitted
  split at admitted
  · exact admitted
  · simp [userSpecLenient, admitted]

theorem reads_userText (printable : url.Printable) {rest : List UInt8} (follows : Follows [greater] rest) :
    (sipUrlUser (sipUriCreate url.sips)).run (userText cfg url ++ (restText cfg context url ++ rest)) =
      some ((sipUriCreate url.sips).withUser (strUnescape url.user,
        if url.user ≠ [] then strUnescape url.passwd else []), restText cfg context url ++ rest) := by
  unfold userText
  by_cases absent : url.user = []
  · have nonempty : restText cfg context url ++ rest ≠ [] := by
      have host : hostWritten url.host ≠ [] := by
        unfold hostWritten
        split
        · simp
        · exact printable.host.ne_nil
      simp [restText, host]
    have unmarked : atSign ∉ restText cfg context url := atSign_notMem_rest printable
    have none := probe_absent unmarked follows
    simp only [absent, ne_eq, not_true_eq_false, if_false, List.nil_append]
    exact sipUrlUser_absent nonempty none _
  · have admitted : ∀ byte ∈ escape cfg.userPrintSpec url.user, userSpecLenient byte = true := fun byte member =>
      userSpecLenient_of_print byte ((escapes_user cfg).admitted _ byte member)
    have reads := reads_sipUrlUser (escape_ne_nil absent) admitted (escapes_passwd.admitted url.passwd)
      (sipUriCreate url.sips)
    rw [(escapes_user cfg).unescape, escapes_passwd.unescape] at reads
    rw [if_pos absent, if_pos absent]
    exact reads _ trivial

theorem withRest_arrives (printable : url.Printable) :
    ((sipUriCreate url.sips).withUser (strUnescape url.user,
      if url.user ≠ [] then strUnescape url.passwd else [])).withRest url.host (portPrinted cfg context url)
        (urlParams context url) (urlHeaders context url) = url.arrives cfg context := by
  have port : ((portPrinted cfg context url : Nat) : Int) = if PrintsPort cfg context url then url.port else 0 := by
    have nonneg := printable.range.port_nonneg
    unfold portPrinted
    split
    · omega
    · rfl
  have params := @foldl_urlParams context url printable
    { (sipUriCreate url.sips).withUser (strUnescape url.user, if url.user ≠ [] then strUnescape url.passwd else []) with
      host := url.host, port := ((portPrinted cfg context url : Nat) : Int) } rfl rfl rfl rfl rfl rfl rfl
  unfold SipUri.withRest
  change (urlHeaders context url).foldl SipUri.addHeader ((urlParams context url).foldl SipUri.take _) = _
  rw [params]
  unfold urlHeaders SipUri.arrives
  by_cases allowed : context = .inContactHdr ∨ context = .inOther
  · simp only [if_pos allowed]
    rw [foldl_headers, port]
    rfl
  · simp only [if_neg allowed]
    rw [List.foldl_nil, port]
    rfl

theorem reads_urlText (printable : url.Printable) :
    Reads (intParseSipUrl true) (urlText cfg context url) (url.arrives cfg context) (Follows [greater]) := by
  intro rest follows
  have small : portPrinted cfg context url < 2 ^ 31 := by
    have bound := printable.range.port_lt
    unfold portPrinted
    split <;> omega
  have params : ∀ param ∈ urlParams context url, WellWritten paramCharSpec param :=
    fun param member => (urlParams_wellWritten printable param member).1
  have headers : ∀ header ∈ urlHeaders context url, WellWrittenHeader header := wellWritten_headers printable
  have tail := reads_sipUrlRest printable.host small params headers
    ((sipUriCreate url.sips).withUser (strUnescape url.user, if url.user ≠ [] then strUnescape url.passwd else []))
    rest follows
  rw [withRest_arrives printable] at tail
  rw [urlText_eq printable, List.append_assoc, intParseSipUrl, Scanner.run_bind,
    reads_sipUrlScheme url.sips _ trivial, Option.bind_some, Scanner.run_bind, List.append_assoc, reads_userText printable follows, Option.bind_some]
  exact tail

def schemeName (sips : Bool) : List UInt8 := if sips then utf8 "sips".toList else utf8 "sip".toList

theorem peek_scheme {spec : UInt8 → Bool} (admits : ∀ sips, ∀ byte ∈ schemeName sips, spec byte = true)
    (stop : spec colon = false) (sips : Bool) (tail : List UInt8) :
    (scanPeek spec).run (schemeWritten sips ++ tail) =
      some ((schemeName sips, some colon), schemeWritten sips ++ tail) := by
  have shape : schemeWritten sips ++ tail = schemeName sips ++ colon :: tail := by
    simp [schemeWritten, schemeName]
  have halts : ¬ spec colon = true := by simp [stop]
  rw [shape, run_peekMany, if_neg (by simp), List.takeWhile_append_of_pos (admits sips),
    List.dropWhile_append_of_pos (admits sips), List.takeWhile_cons_of_neg halts, List.dropWhile_cons_of_neg halts,
    List.append_nil]
  rfl

theorem findUriHandler_scheme (sips : Bool) : findUriHandler (schemeName sips) = .sipUrl := by
  cases sips <;> decide

theorem head_scheme (sips : Bool) (tail : List UInt8) : (schemeWritten sips ++ tail).head? = some 115 := by
  cases sips with
  | false =>
    have shape : schemeWritten false = [115, 105, 112, 58] := by decide
    rw [shape]
    rfl
  | true =>
    have shape : schemeWritten true = [115, 105, 112, 115, 58] := by decide
    rw [shape]
    rfl

theorem skipWhitespace_of_head {byte : UInt8} {input : List UInt8} (next : input.head? = some byte)
    (solid : (byte == space || byte == tab) = false) : scanSkipWhitespace.run input = some ((), input) := by
  obtain ⟨tail, rfl⟩ := List.head?_eq_some_iff.mp next
  rw [scanSkipWhitespace, Scanner.run_bind, run_many]
  simp only [List.takeWhile_cons, List.dropWhile_cons, solid]
  rfl

theorem run_intParseUri (sips : Bool) (tail : List UInt8) :
    (intParseUri true).run (schemeWritten sips ++ tail) =
      ((intParseSipUrl true).run (schemeWritten sips ++ tail)).map fun read => (.sip read.1, read.2) := by
  rw [intParseUri, Scanner.run_bind, peek_scheme (by decide +kernel) (by decide +kernel), Option.bind_some, if_pos rfl,
    findUriHandler_scheme]
  change (intParseSipUrl true >>= fun url => pure (Uri.sip url)).run _ = _
  rw [Scanner.run_bind]
  cases (intParseSipUrl true).run (schemeWritten sips ++ tail) with
  | none => rfl
  | some read => rfl

theorem run_intParseUriOrNameAddr {option : ParseOption} (params : option.inFromToHdr = false) (sips : Bool)
    (tail : List UInt8) :
    (intParseUriOrNameAddr option).run (schemeWritten sips ++ tail) =
      ((intParseSipUrl true).run (schemeWritten sips ++ tail)).map fun read =>
        (asParsed option (.sip read.1), read.2) := by
  have head := head_scheme sips tail
  have bare : ¬ (some (115 : UInt8) = some quotation ∨ some (115 : UInt8) = some less) := by decide
  rw [intParseUriOrNameAddr, Scanner.run_bind, skipWhitespace_of_head head (by decide), Option.bind_some,
    Scanner.run_bind, run_current, Option.bind_some, head, if_neg bare, Scanner.run_bind,
    peek_scheme (by decide +kernel) (by decide +kernel), Option.bind_some, if_pos rfl, findUriHandler_scheme, params]
  change ((intParseSipUrl true >>= fun url => pure (Uri.sip url)) >>= fun uri => pure (asParsed option uri)).run _ = _
  rw [Scanner.run_bind, Scanner.run_bind]
  cases (intParseSipUrl true).run (schemeWritten sips ++ tail) with
  | none => rfl
  | some read => rfl

theorem parse_urlText (printable : url.Printable) {option : ParseOption} (params : option.inFromToHdr = false) :
    parseUri option (urlText cfg context url) = some (asParsed option (.sip (url.arrives cfg context))) := by
  have nothing : Follows [greater] [] := fun byte next => absurd next (by simp)
  have reads : (intParseSipUrl true).run (urlText cfg context url ++ []) = _ := reads_urlText printable [] nothing
  rw [List.append_nil, urlText_eq printable] at reads
  unfold parseUri
  rw [urlText_eq printable, run_intParseUriOrNameAddr params, reads]
  rfl

/-- The texts of the URL have nothing in them that reads as an escape, and what it has no text for is not there. -/
structure SipUri.Settled (url : SipUri) : Prop where
  texts : ∀ text ∈ [url.user, url.passwd, url.userParam, url.methodParam, url.transportParam, url.maddrParam],
    strUnescape text = text
  passwd : url.user = [] → url.passwd = []
  ttlParam : -1 ≤ url.ttlParam
  maddrParam : bracketed url.maddrParam = url.maddrParam
  otherParam : ∀ param ∈ url.otherParam, param.read = param
  headerParam : ∀ header ∈ url.headerParam, header.read = header

theorem map_read_iff (params : List SipParam) :
    params.map SipParam.read = params ↔ ∀ param ∈ params, param.read = param := by
  induction params with
  | nil => simp
  | cons param params ih => simp [ih]

attribute [ext] SipUri

theorem bracketed_of_unescape {maddr : List UInt8} (same : strUnescape (bracketed maddr) = maddr) :
    bracketed maddr = maddr := by
  unfold bracketed at same ⊢
  split_ifs at same ⊢ with address
  · have differs : leftBracket ≠ percent := by decide
    rw [strUnescape_cons fun equal => absurd equal differs] at same
    exact absurd (by rw [← same]; rfl) address.2
  · rfl

theorem arrives_inOther_iff : url.arrives cfg .inOther = url ↔ url.Settled := by
  have port : (if PrintsPort cfg .inOther url then url.port else 0) = url.port := by
    by_cases zero : url.port = 0
    · simp [PrintsPort, zero]
    · have printed : PrintsPort cfg .inOther url := ⟨zero, .inl (by decide)⟩
      rw [if_pos printed]
  have lr : decide (PrintsLr .inOther url) = url.lrParam := by
    cases given : url.lrParam <;> simp [PrintsLr, given]
  have ttl : (if PrintsTtl .inOther url then url.ttlParam else -1) = url.ttlParam ↔ -1 ≤ url.ttlParam := by
    have printed : PrintsTtl .inOther url ↔ 0 ≤ url.ttlParam := by simp [PrintsTtl]
    rw [if_congr printed rfl rfl]
    split <;> omega
  have fields : url.arrives cfg .inOther = url ↔
      strUnescape url.user = url.user ∧ (if url.user ≠ [] then strUnescape url.passwd else []) = url.passwd ∧
      strUnescape url.userParam = url.userParam ∧ strUnescape url.methodParam = url.methodParam ∧
      strUnescape url.transportParam = url.transportParam ∧ -1 ≤ url.ttlParam ∧
      strUnescape (bracketed url.maddrParam) = url.maddrParam ∧
      (∀ param ∈ url.otherParam, param.read = param) ∧ ∀ header ∈ url.headerParam, header.read = header := by
    rw [SipUri.ext_iff]
    unfold SipUri.arrives
    dsimp only
    rw [port, lr, ttl, map_read_iff]
    simp [map_read_iff]
  rw [fields]
  constructor
  · intro ⟨user, passwd, userParam, methodParam, transportParam, ttlParam, maddrParam, otherParam, headerParam⟩
    have whole := bracketed_of_unescape maddrParam
    have empty : url.user = [] → url.passwd = [] := fun none => by simpa [none] using passwd.symm
    have passwdText : strUnescape url.passwd = url.passwd := by
      by_cases none : url.user = []
      · rw [empty none]
        rfl
      · simpa [none] using passwd
    rw [whole] at maddrParam
    refine ⟨?_, empty, ttlParam, whole, otherParam, headerParam⟩
    simp [user, passwdText, userParam, methodParam, transportParam, maddrParam]
  · intro settled
    have texts := settled.texts
    simp only [List.mem_cons, List.not_mem_nil, or_false, forall_eq_or_imp, forall_eq] at texts
    obtain ⟨user, passwd, userParam, methodParam, transportParam, maddrParam⟩ := texts
    have passwdText : (if url.user ≠ [] then strUnescape url.passwd else []) = url.passwd := by
      split
      · exact passwd
      · rename_i none
        exact (settled.passwd (by simpa using none)).symm
    rw [settled.maddrParam]
    exact ⟨user, passwdText, userParam, methodParam, transportParam, settled.ttlParam, maddrParam,
      settled.otherParam, settled.headerParam⟩

end RoundTrip

end TiSIP.Pjsip
