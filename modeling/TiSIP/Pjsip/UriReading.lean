import TiSIP.Pjsip.UriParts
import TiSIP.Pjsip.UriPieces

namespace TiSIP.Pjsip

open Pjlib Scanner

def Follows (stops rest : List UInt8) : Prop := ∀ byte, rest.head? = some byte → byte ∈ stops

variable {stops more rest text : List UInt8} {spec : UInt8 → Bool}

theorem Follows.refused (follows : Follows stops rest) (refused : ∀ byte ∈ stops, spec byte = false) :
    rest.head?.any spec = false := by
  cases rest with
  | nil => rfl
  | cons byte rest => exact refused byte (follows byte rfl)

theorem Follows.ne (follows : Follows stops rest) {byte : UInt8} (absent : byte ∉ stops) : rest.head? ≠ some byte :=
  fun next => absent (follows byte next)

theorem Follows.mono (follows : Follows stops rest) (wider : ∀ byte ∈ stops, byte ∈ more) : Follows more rest :=
  fun byte next => wider byte (follows byte next)

theorem follows_cons {byte : UInt8} (stops : byte ∈ more) : Follows more (byte :: rest) := by
  intro other next
  rwa [← Option.some.inj next]

theorem Follows.append {first : List UInt8} (starts : Follows stops first) (follows : Follows stops rest) :
    Follows stops (first ++ rest) := by
  cases first with
  | nil => exact follows
  | cons byte first => exact starts

theorem follows_of_head {byte : UInt8} (next : rest.head? = some byte) (stops : byte ∈ more) : Follows more rest := by
  intro other same
  rwa [← Option.some.inj (next.symm.trans same)]

section Tokens

variable {α : Type} {value : α} {yes no : PjScanner α} {Before : List UInt8 → Prop}

theorem reads_token (nonempty : text ≠ []) (admitted : ∀ byte ∈ text, spec byte = true) :
    Reads (parserGetAndUnescape spec) text (strUnescape text) fun rest => rest.head?.any spec = false :=
  (Reads.many1 nonempty admitted).thenPure strUnescape

theorem reads_notEof (nonempty : text ≠ []) (reads : Reads no text value Before) :
    Reads (do if ← scanIsEof then yes else no) text value Before := by
  intro rest before
  have more : (text ++ rest).isEmpty = false := by simp [nonempty]
  change (if (text ++ rest).isEmpty = true then yes else no).run (text ++ rest) = _
  rw [more]
  exact reads rest before

theorem reads_ifAdmits (starts : text.head?.any spec = true) (reads : Reads yes text value Before) :
    Reads (do if (← Scanner.current).any spec then yes else no) text value Before := by
  intro rest before
  have here : (text ++ rest).head?.any spec = true := by
    cases text with
    | nil => cases starts
    | cons byte text => exact starts
  rw [run_bind, run_current, Option.bind_some, if_pos here]
  exact reads rest before

theorem closeQuote_reads {before read : List UInt8} (closes : closeQuote before text = some (read, [])) :
    closeQuote before (text ++ rest) = some (read, rest) := by
  induction text generalizing before with
  | nil => cases closes
  | cons byte text ih =>
    rw [closeQuote] at closes
    rw [List.cons_append, closeQuote]
    split_ifs at closes ⊢
    · simp only [Option.some.injEq, Prod.mk.injEq] at closes
      simp [closes]
    · exact ih closes

/-- The text is one quoted string: the quotation mark that closes it is its last byte. -/
def Quoted (text : List UInt8) : Prop := scanGetQuote.run text = some (text, [])

instance (text : List UInt8) : Decidable (Quoted text) := inferInstanceAs (Decidable (_ = _))

theorem reads_quote (quoted : Quoted text) : Reads scanGetQuote text text Before := by
  intro rest _
  cases text with
  | nil => cases quoted
  | cons byte text =>
    change (if byte = quotation then closeQuote [quotation] text else none) = some (byte :: text, []) at quoted
    change (if byte = quotation then closeQuote [quotation] (text ++ rest) else none) = some (byte :: text, rest)
    split_ifs at quoted ⊢
    exact closeQuote_reads quoted

end Tokens

section Params

def SipParam.written (sep : UInt8) (param : SipParam) : List UInt8 :=
  sep :: (param.name ++ if param.value ≠ [] then equals :: param.value else [])

/-- The name and value can stand in a text: of admitted bytes, or the value as a quoted string. -/
structure WellWritten (spec : UInt8 → Bool) (param : SipParam) : Prop where
  name_ne_nil : param.name ≠ []
  name_admitted : ∀ byte ∈ param.name, spec byte = true
  value_admitted : param.value.head? ≠ some quotation → ∀ byte ∈ param.value, spec byte = true
  value_quoted : param.value.head? = some quotation → Quoted param.value

def readValue (value : List UInt8) : List UInt8 :=
  if value.head? = some quotation then value else strUnescape value

def SipParam.read (param : SipParam) : SipParam where
  name := strUnescape param.name
  value := readValue param.value

variable {param : SipParam}

theorem reads_paramValue (well : WellWritten spec param) (nonempty : param.value ≠ [])
    (refused : ∀ byte ∈ stops, spec byte = false) :
    Reads (parseParamValue spec false) param.value (readValue param.value) (Follows stops) := by
  apply reads_notEof nonempty
  unfold readValue
  by_cases quoted : param.value.head? = some quotation
  · rw [if_pos quoted]
    apply Reads.ifNext quoted
    exact (reads_quote (well.value_quoted quoted)).thenPure fun text => if false = true then text.tail.dropLast else text
  · rw [if_neg quoted]
    have admitted := well.value_admitted quoted
    obtain ⟨byte, others, same⟩ := List.exists_cons_of_ne_nil nonempty
    have starts : param.value.head?.any spec = true := by
      rw [same]
      exact admitted byte (by simp [same])
    apply Reads.ifOther
    · apply reads_ifAdmits starts
      exact (reads_token nonempty admitted).mono fun rest follows => follows.refused refused
    · intro rest _
      rw [same] at quoted ⊢
      exact quoted

theorem reads_paramImp (well : WellWritten spec param) (refused : ∀ byte ∈ stops, spec byte = false)
    (noEquals : spec equals = false) (apart : equals ∉ stops) :
    Reads (parseParamImp spec false) (param.name ++ if param.value ≠ [] then equals :: param.value else []) param.read
      (Follows stops) := by
  have name := reads_token well.name_ne_nil well.name_admitted
  by_cases empty : param.value = []
  · rw [if_neg (by simpa using empty)]
    have same : param.read = { name := strUnescape param.name, value := [] } := by
      simp [SipParam.read, readValue, empty, strUnescape]
    rw [same]
    apply name.bind (Reads.ifOther (Reads.done _) fun rest follows => Follows.ne follows apart)
    exact fun rest follows => Follows.refused follows refused
  · rw [if_pos empty]
    have value := (reads_paramValue well empty refused).thenPure fun value =>
      ({ name := strUnescape param.name, value } : SipParam)
    have mark : Reads scanGetChar [equals] equals fun _ => True := Reads.item (by decide)
    exact name.bind (Reads.ifNext rfl (mark.bind value fun _ _ => trivial)) fun _ _ => noEquals

theorem reads_sipUrlParam (well : WellWritten paramCharSpec param) (url : SipUri) :
    Reads (sipUrlParam url) (param.written semicolon) (url.setParam param.read)
      (Follows [semicolon, question, greater]) := by
  have param : Reads (parseParamImp paramCharSpec false) _ param.read (Follows [semicolon, question, greater]) :=
    reads_paramImp well (by decide +kernel) (by decide +kernel) (by decide +kernel)
  have mark : Reads scanGetChar [semicolon] semicolon fun _ => True := Reads.item (by decide)
  exact (mark.bind param fun _ _ => trivial).thenPure url.setParam

theorem reads_sipUrlParams {params : List SipParam} (well : ∀ param ∈ params, WellWritten paramCharSpec param)
    (url : SipUri) :
    Reads (sipUrlParams true url) (params.flatMap (SipParam.written semicolon))
      (params.foldl (fun url param => url.setParam param.read) url) (Follows [question, greater]) := by
  have each : ∀ param ∈ params, ∀ url : SipUri, Reads (sipUrlParam url) (param.written semicolon)
      (url.setParam param.read) (Follows [semicolon, question, greater]) :=
    fun param member => reads_sipUrlParam (well param member)
  apply Reads.whileNext ends_sipUrlParam each
  · intro param _
    rfl
  · intro rest next
    exact follows_of_head next (by decide)
  · intro rest follows
    exact ⟨follows.ne (by decide +kernel), follows.mono (by decide +kernel)⟩

end Params

section Headers

def headersWritten : List SipParam → List UInt8
  | [] => []
  | first :: others => first.written question ++ others.flatMap (SipParam.written ampersand)

/-- A header's value is never read as a quoted string. -/
structure WellWrittenHeader (header : SipParam) : Prop where
  written : WellWritten hdrCharSpec header
  unquoted : header.value.head? ≠ some quotation

variable {header : SipParam}

theorem reads_hvalue (well : WellWrittenHeader header) (nonempty : header.value ≠ []) :
    Reads intParseHvalue header.value (readValue header.value) (Follows [ampersand, greater]) := by
  have admitted := well.written.value_admitted well.unquoted
  have starts : header.value.head?.any hdrCharSpec = true := by
    obtain ⟨byte, others, same⟩ := List.exists_cons_of_ne_nil nonempty
    rw [same]
    exact admitted byte (by simp [same])
  rw [readValue, if_neg well.unquoted]
  apply reads_ifAdmits starts
  exact (reads_token nonempty admitted).mono fun rest follows => Follows.refused follows (by decide +kernel)

theorem reads_hparam {sep : UInt8} (separates : sep ≠ 0) (well : WellWrittenHeader header) :
    Reads intParseHparam (header.written sep) header.read (Follows [ampersand, greater]) := by
  have before : Reads scanGetChar [sep] sep fun _ => True := Reads.item (by simpa using separates)
  have name := reads_token well.written.name_ne_nil well.written.name_admitted
  apply before.bind _ fun _ _ => trivial
  by_cases empty : header.value = []
  · have same : header.read = { name := strUnescape header.name, value := [] } := by
      simp [SipParam.read, readValue, empty, strUnescape]
    rw [if_neg (by simpa using empty), same]
    apply name.bind (Reads.ifOther (Reads.done _) fun rest follows => Follows.ne follows (by decide))
    exact fun rest follows => Follows.refused follows (by decide +kernel)
  · rw [if_pos empty]
    have value := (reads_hvalue well empty).thenPure fun value =>
      ({ name := strUnescape header.name, value } : SipParam)
    have mark : Reads scanGetChar [equals] equals fun _ => True := Reads.item (by decide)
    have stop : hdrCharSpec equals = false := by decide
    exact name.bind (Reads.ifNext rfl (mark.bind value fun _ _ => trivial)) fun _ _ => stop

def SipUri.addHeader (url : SipUri) (header : SipParam) : SipUri :=
  { url with headerParam := url.headerParam ++ [header.read] }

theorem reads_sipUrlHeader {sep : UInt8} (separates : sep ≠ 0) (well : WellWrittenHeader header) (url : SipUri) :
    Reads (sipUrlHeader url) (header.written sep) (url.addHeader header) (Follows [ampersand, greater]) :=
  (reads_hparam separates well).thenPure fun param =>
    ({ url with headerParam := url.headerParam ++ [param] } : SipUri)

theorem reads_sipUrlHeaders {headers : List SipParam} (well : ∀ header ∈ headers, WellWrittenHeader header)
    (url : SipUri) :
    Reads (sipUrlHeaders true url) (headersWritten headers) (headers.foldl SipUri.addHeader url) (Follows [greater]) := by
  cases headers with
  | nil =>
    have done : Reads (pure url) [] url (Follows [greater]) := Reads.done url
    exact done.ifOther fun rest follows => Follows.ne follows (by decide)
  | cons first others =>
    have each : ∀ header ∈ others, ∀ url : SipUri, Reads (sipUrlHeader url) (header.written ampersand)
        (url.addHeader header) (Follows [ampersand, greater]) :=
      fun header member => reads_sipUrlHeader (by decide) (well header (List.mem_cons_of_mem _ member))
    have rest : Reads (whileNext ampersand sipUrlHeader (url.addHeader first))
        (others.flatMap (SipParam.written ampersand)) (others.foldl SipUri.addHeader (url.addHeader first))
        (Follows [greater]) := by
      apply Reads.whileNext ends_sipUrlHeader each
      · intro header _
        rfl
      · intro rest next
        exact follows_of_head next (by decide)
      · intro rest follows
        exact ⟨follows.ne (by decide +kernel), follows.mono (by decide +kernel)⟩
    have starts : Reads (sipUrlHeader url) (first.written question) (url.addHeader first)
        (Follows [ampersand, greater]) := reads_sipUrlHeader (by decide) (well first List.mem_cons_self) url
    apply Reads.ifNext rfl (starts.bind rest _)
    intro more follows
    cases others with
    | nil => exact follows.mono (by decide +kernel)
    | cons other others => exact follows_cons (by decide)

end Headers

section UserPart

def userWritten (user passwd : List UInt8) : List UInt8 :=
  user ++ ((if passwd ≠ [] then colon :: passwd else []) ++ [atSign])

theorem userSpecLenient_of_passwdSpec (byte : UInt8) (admitted : passwdSpec byte = true) :
    userSpecLenient byte = true := by
  have all : ∀ byte : Fin 256, passwdSpec (UInt8.ofFin byte) = true → userSpecLenient (UInt8.ofFin byte) = true := by
    decide +kernel
  exact all byte.toFin admitted

theorem reads_passwd {passwd : List UInt8} (admitted : ∀ byte ∈ passwd, passwdSpec byte = true) :
    Reads intParsePasswd (if passwd ≠ [] then colon :: passwd else []) (strUnescape passwd)
      fun rest => rest.head? = some atSign := by
  by_cases empty : passwd = []
  · rw [if_neg (by simpa using empty), empty]
    have done : Reads (pure []) [] (strUnescape []) fun rest : List UInt8 => rest.head? = some atSign := Reads.done []
    apply done.ifOther
    intro rest next
    rw [List.nil_append, next]
    decide
  · rw [if_pos empty]
    have mark : Reads scanGetChar [colon] colon fun _ => True := Reads.item (by decide)
    have stop : passwdSpec atSign = false := by decide
    have token : Reads (parserGetAndUnescape passwdSpec) passwd (strUnescape passwd)
        fun rest => rest.head? = some atSign :=
      (reads_token empty admitted).mono fun rest next => by simpa [next] using stop
    exact Reads.ifNext rfl (mark.bind token fun _ _ => trivial)

theorem userWritten_probed {user passwd : List UInt8} (admitted : ∀ byte ∈ user, userSpecLenient byte = true)
    (passwdAdmitted : ∀ byte ∈ passwd, passwdSpec byte = true) (rest : List UInt8) :
    ((userWritten user passwd ++ rest).dropWhile probeUserHostSpec).head? = some atSign := by
  have colonProbed : probeUserHostSpec colon = true := by decide
  have stop : ¬ probeUserHostSpec atSign = true := by decide
  have probed : ∀ byte ∈ user ++ (if passwd ≠ [] then colon :: passwd else []), probeUserHostSpec byte = true := by
    intro byte member
    rcases List.mem_append.mp member with inUser | inPasswd
    · exact probe_of_userSpecLenient byte (admitted byte inUser)
    · split_ifs at inPasswd
      · rcases List.mem_cons.mp inPasswd with rfl | inside
        · exact colonProbed
        · exact probe_of_userSpecLenient byte (userSpecLenient_of_passwdSpec byte (passwdAdmitted byte inside))
      · cases inPasswd
  have same : userWritten user passwd ++ rest =
      (user ++ (if passwd ≠ [] then colon :: passwd else [])) ++ atSign :: rest := by
    simp [userWritten]
  rw [same, List.dropWhile_append_of_pos probed, List.dropWhile_cons_of_neg stop]
  rfl

theorem reads_sipUrlUser {user passwd : List UInt8} (nonempty : user ≠ [])
    (admitted : ∀ byte ∈ user, userSpecLenient byte = true)
    (passwdAdmitted : ∀ byte ∈ passwd, passwdSpec byte = true) (url : SipUri) :
    Reads (sipUrlUser url) (userWritten user passwd) (url.withUser (strUnescape user, strUnescape passwd))
      fun _ => True := by
  intro rest _
  have filled : (userWritten user passwd ++ rest).isEmpty = false := by simp [userWritten, nonempty]
  have isUser : intIsNextUser.run (userWritten user passwd ++ rest) = some (true, userWritten user passwd ++ rest) := by
    have next := userWritten_probed admitted passwdAdmitted rest
    simp [intIsNextUser, run_peekMany, next, filled]
  have mark : Reads scanGetChar [atSign] atSign fun _ => True := Reads.item (by decide)
  have both : Reads intParseUserPass (userWritten user passwd) (strUnescape user, strUnescape passwd) fun _ => True := by
    apply (reads_token nonempty admitted).bind ((reads_passwd passwdAdmitted).bind (mark.thenPure _) fun rest _ => rfl)
    intro rest _
    split_ifs
    · exact (by decide : userSpecLenient colon = false)
    · exact (by decide : userSpecLenient atSign = false)
  rw [sipUrlUser, run_bind, isUser, Option.bind_some, if_pos rfl, run_bind, both rest trivial]
  rfl

/-- Without an at sign before the place where the parser stops looking for one, there is no user part. -/
theorem sipUrlUser_absent {input : List UInt8} (nonempty : input ≠ [])
    (absent : (input.dropWhile probeUserHostSpec).head? ≠ some atSign) (url : SipUri) :
    (sipUrlUser url).run input = some (url, input) := by
  have isUser : intIsNextUser.run input = some (false, input) := by
    simp [intIsNextUser, run_peekMany, nonempty, absent]
  rw [sipUrlUser, run_bind, isUser, Option.bind_some, if_neg (by simp)]
  rfl

end UserPart

section HostPort

def hostWritten (host : List UInt8) : List UInt8 :=
  if colon ∈ host then leftBracket :: (host ++ [rightBracket]) else host

structure WellWrittenHost (host : List UInt8) : Prop where
  ne_nil : host ≠ []
  plain : colon ∉ host → ∀ byte ∈ host, hostSpec byte = true
  bracketed : ∀ byte ∈ host, byte ≠ rightBracket ∧ byte ≠ leftBracket ∧ byte ≠ atSign

theorem reads_upTo {stop : UInt8} (absent : stop ∉ text) :
    Reads (scanGetUntilCh stop) text text fun rest => rest.head? = some stop := by
  intro rest next
  obtain ⟨tail, rfl⟩ := List.head?_eq_some_iff.mp next
  have passed : ∀ byte ∈ text, (byte != stop) = true := by
    intro byte member
    simpa using fun same : byte = stop => absent (same ▸ member)
  rw [run_upTo, if_neg (by simp), List.takeWhile_append_of_pos passed, List.dropWhile_append_of_pos passed]
  simp

theorem reads_host {host : List UInt8} (well : WellWrittenHost host) :
    Reads intParseHost (hostWritten host) host (Follows [colon, semicolon, question, greater]) := by
  unfold hostWritten
  by_cases address : colon ∈ host
  · rw [if_pos address]
    have opens : Reads scanGetChar [leftBracket] leftBracket fun _ => True := Reads.item (by decide)
    have closes : Reads scanGetChar [rightBracket] rightBracket (Follows [colon, semicolon, question, greater]) :=
      Reads.item (by decide)
    have absent : rightBracket ∉ host := fun member => (well.bracketed _ member).1 rfl
    have closed := closes.thenPure fun _ => host
    exact Reads.ifNext rfl (opens.bind ((reads_upTo absent).bind closed fun rest _ => rfl) fun _ _ => trivial)
  · rw [if_neg address]
    have token : Reads (scanGet hostSpec) host host (Follows [colon, semicolon, question, greater]) :=
      (Reads.many1 well.ne_nil (well.plain address)).mono fun rest follows => Follows.refused follows (by decide +kernel)
    apply token.ifOther
    intro rest _ next
    obtain ⟨byte, others, same⟩ := List.exists_cons_of_ne_nil well.ne_nil
    have opens : byte = leftBracket := by simpa [same] using next
    exact (well.bracketed byte (by simp [same])).2.1 opens

def portWritten (port : Nat) : List UInt8 := if port ≠ 0 then colon :: pjUtoa port else []

theorem strtoulInt_pjUtoa {value : Nat} (small : value < 2 ^ 31) : strtoulInt (pjUtoa value) = value := by
  unfold strtoulInt
  rw [strtoul_pjUtoa]
  apply Int.bmod_eq_of_le_mul_two
  · omega
  · omega

theorem reads_port {port : Nat} (small : port < 2 ^ 31) :
    Reads intParsePort (portWritten port) (port : Int) (Follows [semicolon, question, greater]) := by
  unfold portWritten
  by_cases given : port ≠ 0
  · rw [if_pos given]
    have mark : Reads scanGetChar [colon] colon fun _ => True := Reads.item (by decide)
    have digits : Reads (scanGet isDigit) (pjUtoa port) (pjUtoa port)
        (Follows [semicolon, question, greater]) :=
      (Reads.many1 (pjUtoa_ne_nil port) (pjUtoa_digits port)).mono
        fun rest follows => Follows.refused follows (by decide +kernel)
    have value := digits.thenPure strtoulInt
    rw [strtoulInt_pjUtoa small] at value
    exact Reads.ifNext rfl (mark.bind value fun _ _ => trivial)
  · rw [if_neg given, show port = 0 by omega]
    have done : Reads (pure 0) [] (0 : Int) (Follows [semicolon, question, greater]) := Reads.done 0
    exact done.ifOther fun rest follows => Follows.ne follows (by decide)

theorem follows_params (params : List SipParam) : Follows [semicolon] (params.flatMap (SipParam.written semicolon)) := by
  cases params with
  | nil => exact fun byte next => absurd next (by simp)
  | cons first others => exact follows_cons (by decide)

theorem follows_headers (headers : List SipParam) : Follows [question] (headersWritten headers) := by
  cases headers with
  | nil => exact fun byte next => absurd next (by simp [headersWritten])
  | cons first others => exact follows_cons (by decide)

theorem follows_port (port : Nat) : Follows [colon] (portWritten port) := by
  unfold portWritten
  split
  · exact follows_cons (by decide)
  · exact fun byte next => absurd next (by simp)

end HostPort

section Rest

variable {host : List UInt8} {port : Nat} {params headers : List SipParam}

theorem reads_skipWhitespace : Reads scanSkipWhitespace [] () (Follows [greater]) := by
  intro rest follows
  have refused : rest.head?.any (fun byte => byte == space || byte == tab) = false := follows.refused (by decide +kernel)
  cases rest with
  | nil => rfl
  | cons byte rest =>
    have other : (byte == space || byte == tab) = false := refused
    rw [scanSkipWhitespace, run_bind, run_many]
    simp only [List.nil_append, List.takeWhile_cons, List.dropWhile_cons, other]
    rfl

def SipUri.withRest (url : SipUri) (host : List UInt8) (port : Nat) (params headers : List SipParam) : SipUri :=
  headers.foldl SipUri.addHeader
    (params.foldl (fun url param => url.setParam param.read) { url with host, port := (port : Int) })

theorem reads_sipUrlRest (wellHost : WellWrittenHost host) (small : port < 2 ^ 31)
    (wellParams : ∀ param ∈ params, WellWritten paramCharSpec param)
    (wellHeaders : ∀ header ∈ headers, WellWrittenHeader header) (url : SipUri) :
    Reads (sipUrlRest true url)
      (hostWritten host ++ portWritten port ++
        (params.flatMap (SipParam.written semicolon) ++ (headersWritten headers ++ [])))
      (url.withRest host port params headers) (Follows [greater]) := by
  have hostPort : Reads (sipUrlHostPort url) (hostWritten host ++ portWritten port)
      ({ url with host, port := (port : Int) } : SipUri) (Follows [semicolon, question, greater]) := by
    have located : ∀ rest, Follows [semicolon, question, greater] rest →
        Follows [colon, semicolon, question, greater] (portWritten port ++ rest) :=
      fun rest follows => ((follows_port port).mono (by decide +kernel)).append (Follows.mono follows (by decide +kernel))
    have both : Reads intParseUriHostPort (hostWritten host ++ portWritten port) (host, (port : Int))
        (Follows [semicolon, question, greater]) :=
      (reads_host wellHost).bind ((reads_port small).thenPure fun port => (host, port)) located
    exact both.thenPure fun hostPort => ({ url with host := hostPort.1, port := hostPort.2 } : SipUri)
  have headerStops : ∀ rest, Follows [greater] rest → Follows [question, greater] (headersWritten headers ++ [] ++ rest) := by
    intro rest follows
    rw [List.append_nil]
    exact ((follows_headers headers).mono (by decide +kernel)).append (Follows.mono follows (by decide +kernel))
  have paramStops : ∀ rest, Follows [greater] rest → Follows [semicolon, question, greater]
      (params.flatMap (SipParam.written semicolon) ++ (headersWritten headers ++ []) ++ rest) := by
    intro rest follows
    rw [List.append_assoc]
    exact ((follows_params params).mono (by decide +kernel)).append ((headerStops rest follows).mono (by decide +kernel))
  have skips : ∀ url : SipUri, Reads (do scanSkipWhitespace; pure url) [] url (Follows [greater]) :=
    fun url => reads_skipWhitespace.thenPure fun _ => url
  exact hostPort.bind ((reads_sipUrlParams wellParams _).bind ((reads_sipUrlHeaders wellHeaders _).bind (skips _)
    fun rest follows => follows) headerStops) paramStops

end Rest

section Scheme

def schemeWritten (sips : Bool) : List UInt8 :=
  (if sips then BytewiseDecoder.utf8 "sips".toList else BytewiseDecoder.utf8 "sip".toList) ++ [colon]

theorem reads_sipUrlScheme (sips : Bool) :
    Reads sipUrlScheme (schemeWritten sips) (sipUriCreate sips) fun _ => True := by
  intro rest _
  have mark : Reads scanGetChar [colon] colon fun _ => True := Reads.item (by decide)
  have taken : scanGetChar.run (colon :: rest) = some (colon, rest) := mark rest trivial
  have stop : tokenSpec colon = false := by decide
  cases sips with
  | false =>
    have isSip : Pjsua.stricmp (BytewiseDecoder.utf8 "sip".toList) "sip" = true := by decide
    have token : (scanGet tokenSpec).run (BytewiseDecoder.utf8 "sip".toList ++ colon :: rest) = _ :=
      Reads.many1 (by decide +kernel) (by decide +kernel) _ stop
    rw [schemeWritten, if_neg (by simp), List.append_assoc, List.singleton_append, sipUrlScheme, run_bind, token,
      Option.bind_some, run_bind, taken, Option.bind_some, if_pos rfl, if_pos isSip]
    rfl
  | true =>
    have notSip : ¬ Pjsua.stricmp (BytewiseDecoder.utf8 "sips".toList) "sip" = true := by decide
    have isSips : Pjsua.stricmp (BytewiseDecoder.utf8 "sips".toList) "sips" = true := by decide
    have token : (scanGet tokenSpec).run (BytewiseDecoder.utf8 "sips".toList ++ colon :: rest) = _ :=
      Reads.many1 (by decide +kernel) (by decide +kernel) _ stop
    rw [schemeWritten, if_pos rfl, List.append_assoc, List.singleton_append, sipUrlScheme, run_bind, token,
      Option.bind_some, run_bind, taken, Option.bind_some, if_pos rfl, if_neg notSip, if_pos isSips]
    rfl

end Scheme

end TiSIP.Pjsip
