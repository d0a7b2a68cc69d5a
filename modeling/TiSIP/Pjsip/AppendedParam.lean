import TiSIP.Pjsip.Parser

namespace TiSIP.Pjsip

open Pjlib Scanner
open Pjsua (stricmp)

structure AppendedTransport (more value : List UInt8) : Prop where
  head : more.head? = some semicolon
  probed : more.dropWhile probeUserHostSpec = []
  noQuotation : quotation ∉ more
  noBracket : rightBracket ∉ more
  nonempty : value ≠ []
  param : (intParseUriParam false).run more = some ({ name := BytewiseDecoder.utf8 "transport".toList, value }, [])

def SolidByte (byte : UInt8) : Prop := byte ≠ space ∧ byte ≠ tab ∧ byte ≠ greater

instance (byte : UInt8) : Decidable (SolidByte byte) :=
  inferInstanceAs (Decidable (_ ∧ _))

theorem solid_of_spec {spec : UInt8 → Bool} (noSpace : spec space = false) (noTab : spec tab = false)
    (noGreater : spec greater = false) (byte : UInt8) (admitted : spec byte = true) : SolidByte byte := by
  refine ⟨?_, ?_, ?_⟩
  · intro same
    simp [← same, admitted] at noSpace
  · intro same
    simp [← same, admitted] at noTab
  · intro same
    simp [← same, admitted] at noGreater

section Ends

theorem ends_scanGet {spec : UInt8 → Bool} (noSpace : spec space = false) (noTab : spec tab = false)
    (noGreater : spec greater = false) : Ends SolidByte (scanGet spec) :=
  (Ends.many1 spec).mono (solid_of_spec noSpace noTab noGreater)

theorem ends_parserGetAndUnescape {spec : UInt8 → Bool} (noSpace : spec space = false) (noTab : spec tab = false)
    (noGreater : spec greater = false) : Ends SolidByte (parserGetAndUnescape spec) :=
  (ends_scanGet noSpace noTab noGreater).bind fun _ => MayEnd.done _

theorem ends_scanGetChar : Ends (fun _ => True) scanGetChar :=
  (Ends.item _).mono fun _ _ => trivial

theorem closeQuote_ends {before input read rest : List UInt8} (reads : closeQuote before input = some (read, rest)) :
    ∃ taken, input = taken ++ quotation :: rest := by
  induction input generalizing before with
  | nil => cases reads
  | cons byte input ih =>
    rw [closeQuote] at reads
    split at reads
    · cases reads
    · split at reads
      · rename_i closes
        simp only [Option.some.injEq, Prod.mk.injEq] at reads
        exact ⟨[], by simp [closes.1, reads.2]⟩
      · obtain ⟨taken, same⟩ := ih reads
        exact ⟨byte :: taken, by simp [same]⟩

theorem ends_scanGetQuote : Ends SolidByte scanGetQuote := by
  intro input read rest reads
  cases input with
  | nil => cases reads
  | cons byte input =>
    change (if byte = quotation then closeQuote [quotation] input else none) = _ at reads
    split at reads
    · obtain ⟨taken, same⟩ := closeQuote_ends reads
      exact ⟨byte :: taken, quotation, by simp [same], by decide⟩
    · cases reads

theorem ends_intParseHost : Ends SolidByte intParseHost := by
  apply MayEnd.current.thenEnds
  intro next
  apply Ends.ite
  · apply ends_scanGetChar.mayEnd.thenEnds
    intro _
    apply (Ends.upToItem rightBracket _).mono
    intro byte same
    rw [same]
    decide
  · exact ends_scanGet (by decide) (by decide) (by decide)

theorem mayEnd_intParsePort : MayEnd SolidByte intParsePort :=
  MayEnd.takeNext (by decide) ((ends_scanGet (by decide) (by decide) (by decide)).bind fun _ => MayEnd.done _).mayEnd
    (MayEnd.done _)

theorem ends_intParseUriHostPort : Ends SolidByte intParseUriHostPort :=
  ends_intParseHost.bind fun _ => mayEnd_intParsePort.bind fun _ => MayEnd.done _

theorem mayEnd_scanIsEof {last : UInt8 → Prop} : MayEnd last scanIsEof := by
  intro input read rest reads
  change some (input.isEmpty, input) = _ at reads
  simp only [Option.some.injEq, Prod.mk.injEq] at reads
  exact .inl reads.2.symm

theorem mayEnd_parseParamValue {spec : UInt8 → Bool} (noSpace : spec space = false) (noTab : spec tab = false)
    (noGreater : spec greater = false) (removeQuote : Bool) : MayEnd SolidByte (parseParamValue spec removeQuote) := by
  apply mayEnd_scanIsEof.bind
  intro eof
  apply MayEnd.ite (MayEnd.done _)
  apply MayEnd.current.bind
  intro next
  apply MayEnd.ite
  · exact (ends_scanGetQuote.bind fun _ => MayEnd.done _).mayEnd
  · apply MayEnd.current.bind
    intro next
    apply MayEnd.ite
    · exact (ends_parserGetAndUnescape noSpace noTab noGreater).mayEnd
    · exact MayEnd.done _

theorem ends_intParseUriParam (removeQuote : Bool) : Ends SolidByte (intParseUriParam removeQuote) := by
  apply ends_scanGetChar.mayEnd.thenEnds
  intro _
  apply (ends_parserGetAndUnescape (by decide) (by decide) (by decide)).bind
  intro name
  apply MayEnd.takeNext (by decide)
  · apply (mayEnd_parseParamValue (by decide) (by decide) (by decide) removeQuote).bind
    intro value
    exact MayEnd.done _
  · exact MayEnd.done _

theorem ends_sipUrlHostPort (url : SipUri) : Ends SolidByte (sipUrlHostPort url) :=
  ends_intParseUriHostPort.bind fun _ => MayEnd.done _

theorem ends_sipUrlParam (url : SipUri) : Ends SolidByte (sipUrlParam url) :=
  (ends_intParseUriParam false).bind fun _ => MayEnd.done _

theorem mayEnd_sipUrlParams (parseParams : Bool) (url : SipUri) : MayEnd SolidByte (sipUrlParams parseParams url) := by
  cases parseParams with
  | false => exact MayEnd.done url
  | true => exact MayEnd.whileNext ends_sipUrlParam url

theorem ends_intParseHparam : Ends SolidByte intParseHparam := by
  apply ends_scanGetChar.mayEnd.thenEnds
  intro _
  apply (ends_parserGetAndUnescape (by decide) (by decide) (by decide)).bind
  intro name
  apply MayEnd.takeNext (by decide)
  · apply MayEnd.bind
    · apply MayEnd.current.bind
      intro next
      apply MayEnd.ite
      · exact (ends_parserGetAndUnescape (by decide) (by decide) (by decide)).mayEnd
      · exact MayEnd.done _
    · intro value
      exact MayEnd.done _
  · exact MayEnd.done _

theorem ends_sipUrlHeader (url : SipUri) : Ends SolidByte (sipUrlHeader url) :=
  ends_intParseHparam.bind fun _ => MayEnd.done _

end Ends

section Steady

variable {more : List UInt8} (head : more.head? = some semicolon)

include head

theorem takeWhile_of_refused {spec : UInt8 → Bool} (refused : spec semicolon = false) : more.takeWhile spec = [] := by
  obtain ⟨tail, same⟩ := List.head?_eq_some_iff.mp head
  simp [same, refused]

theorem steady_scanGet {spec : UInt8 → Bool} (refused : spec semicolon = false) : Steady more (scanGet spec) :=
  Steady.many1 (takeWhile_of_refused head refused)

theorem steady_parserGetAndUnescape {spec : UInt8 → Bool} (refused : spec semicolon = false) :
    Steady more (parserGetAndUnescape spec) :=
  (steady_scanGet head refused).bind fun _ => Steady.done _

theorem steady_scanSkipWhitespace : Steady more scanSkipWhitespace :=
  (Steady.many (takeWhile_of_refused head (by decide))).bind fun _ => Steady.done _

omit head in
theorem steadyOn_scanGetChar {meant : List UInt8 → Prop} (nonempty : ∀ input, meant input → input ≠ []) :
    SteadyOn meant more scanGetChar :=
  (SteadyOn.item _).mono nonempty

omit head in
theorem ne_nil_of_head {symbol : UInt8} (input : List UInt8) (next : input.head? = some symbol) : input ≠ [] := by
  intro empty
  simp [empty] at next

theorem head_ne {symbol : UInt8} (differs : symbol ≠ semicolon) : more.head? ≠ some symbol := by
  rw [head]
  intro same
  exact differs (Option.some.inj same).symm

theorem steady_intParseHost (noBracket : rightBracket ∉ more) : Steady more intParseHost := by
  apply Steady.ifNext (head_ne head (by decide))
  · apply (steadyOn_scanGetChar ne_nil_of_head).andThen
    intro _
    exact Steady.upToItem noBracket
  · exact steady_scanGet head (by decide)

theorem steady_intParsePort : Steady more intParsePort := by
  apply Steady.ifNext (head_ne head (by decide))
  · apply (steadyOn_scanGetChar ne_nil_of_head).andThen
    intro _
    exact (steady_scanGet head (by decide)).bind fun _ => Steady.done _
  · exact Steady.done _

theorem steady_sipUrlHostPort (noBracket : rightBracket ∉ more) (url : SipUri) : Steady more (sipUrlHostPort url) := by
  apply Steady.bind
  · apply (steady_intParseHost head noBracket).bind
    intro host
    exact (steady_intParsePort head).bind fun _ => Steady.done _
  · intro hostPort
    exact Steady.done _

omit head in
theorem closeQuote_append (noQuotation : quotation ∉ more) (before input : List UInt8) :
    closeQuote before (input ++ more) =
      (closeQuote before input).map fun read => (read.1, read.2 ++ more) := by
  have unclosed : ∀ (text before : List UInt8), quotation ∉ text → closeQuote before text = none := by
    intro text
    induction text with
    | nil => intro before _; rfl
    | cons byte text ih =>
      intro before absent
      have other : byte ≠ quotation := fun same => absent (by simp [same])
      simp only [closeQuote, other, false_and, if_false]
      split
      · rfl
      · exact ih _ fun inside => absent (List.mem_cons_of_mem _ inside)
  induction input generalizing before with
  | nil => exact unclosed more before noQuotation
  | cons byte input ih =>
    simp only [List.cons_append, closeQuote]
    split
    · rfl
    · split
      · rfl
      · exact ih _

theorem steady_scanGetQuote (noQuotation : quotation ∉ more) : Steady more scanGetQuote := by
  intro input _
  cases input with
  | nil =>
    obtain ⟨tail, same⟩ := List.head?_eq_some_iff.mp head
    rw [same]
    rfl
  | cons byte input =>
    change (if byte = quotation then closeQuote [quotation] (input ++ more) else none) =
      (if byte = quotation then closeQuote [quotation] input else none).map _
    split
    · exact closeQuote_append noQuotation _ _
    · rfl

theorem steady_ifAdmits {α : Type} {spec : UInt8 → Bool} {yes no : PjScanner α} (refused : spec semicolon = false)
    (taken : Steady more yes) (left : Steady more no) :
    Steady more (do if (← Scanner.current).any spec then yes else no) := by
  apply Steady.ifAdmits _ taken left
  simpa [head] using refused

theorem steady_parseParamValue {spec : UInt8 → Bool} (refused : spec semicolon = false) (noQuotation : quotation ∉ more)
    (removeQuote : Bool) : Steady more (parseParamValue spec removeQuote) := by
  have within : Steady more (do
      if (← Scanner.current) = some quotation then
        let quoted ← scanGetQuote
        pure (if removeQuote then quoted.tail.dropLast else quoted)
      else if (← Scanner.current).any spec then parserGetAndUnescape spec
      else pure [] : PjScanner (List UInt8)) := by
    apply Steady.ifNext (head_ne head (by decide))
    · exact ((steady_scanGetQuote head noQuotation).bind fun _ => Steady.done _).on
    · exact steady_ifAdmits head refused (steady_parserGetAndUnescape head refused) (Steady.done _)
  intro input _
  cases input with
  | cons byte input => exact within (byte :: input) trivial
  | nil =>
    -- At the end there is no value, and none is read before the added semicolon either.
    obtain ⟨tail, rfl⟩ := List.head?_eq_some_iff.mp head
    exact within [] trivial

theorem steadyOn_intParseUriParam (noQuotation : quotation ∉ more) (removeQuote : Bool) :
    SteadyOn (fun input => input.head? = some semicolon) more (intParseUriParam removeQuote) := by
  apply (steadyOn_scanGetChar ne_nil_of_head).andThen
  intro _
  apply (steady_parserGetAndUnescape head (by decide)).bind
  intro name
  apply Steady.ifNext (head_ne head (by decide))
  · apply (steadyOn_scanGetChar ne_nil_of_head).andThen
    intro _
    exact (steady_parseParamValue head (by decide) noQuotation removeQuote).bind fun _ => Steady.done _
  · exact Steady.done _

theorem steadyOn_sipUrlParam (noQuotation : quotation ∉ more) (url : SipUri) :
    SteadyOn (fun input => input.head? = some semicolon) more (sipUrlParam url) :=
  (steadyOn_intParseUriParam head noQuotation false).andThen fun _ => Steady.done _

theorem steady_intParseHvalue : Steady more intParseHvalue :=
  steady_ifAdmits head (by decide) (steady_parserGetAndUnescape head (by decide)) (Steady.done _)

theorem steadyOn_sipUrlHeader {symbol : UInt8} (url : SipUri) :
    SteadyOn (fun input => input.head? = some symbol) more (sipUrlHeader url) := by
  apply SteadyOn.andThen
  · apply (steadyOn_scanGetChar ne_nil_of_head).andThen
    intro _
    apply (steady_parserGetAndUnescape head (by decide)).bind
    intro name
    apply Steady.ifNext (head_ne head (by decide))
    · apply (steadyOn_scanGetChar ne_nil_of_head).andThen
      intro _
      exact (steady_intParseHvalue head).bind fun _ => Steady.done _
    · exact Steady.done _
  · intro param
    exact Steady.done _

theorem steady_sipUrlHeaders (parseParams : Bool) (url : SipUri) : Steady more (sipUrlHeaders parseParams url) := by
  cases parseParams with
  | false => exact Steady.done url
  | true =>
    apply Steady.ifNext (head_ne head (by decide))
    · apply (steadyOn_sipUrlHeader head url).andThen
      intro first
      exact Steady.whileNext ends_sipUrlHeader (steadyOn_sipUrlHeader head) (head_ne head (by decide)) first
    · exact Steady.done url

end Steady

section Rest

variable {more value : List UInt8} (suffix : AppendedTransport more value)

include suffix

def sipUrlTail (url : SipUri) : PjScanner SipUri := do
  let url ← sipUrlHeaders true url
  scanSkipWhitespace
  pure url

omit suffix in
theorem sipUrlRest_eq (url : SipUri) :
    sipUrlRest true url = (sipUrlHostPort url >>= sipUrlParams true) >>= sipUrlTail := by
  rw [bind_assoc]
  rfl

theorem steady_sipUrlTail (url : SipUri) : Steady more (sipUrlTail url) := by
  apply (steady_sipUrlHeaders suffix.head true url).bind
  intro url
  exact (steady_scanSkipWhitespace suffix.head).bind fun _ => Steady.done _

omit suffix in
theorem setParam_transport (nonempty : value ≠ []) (url : SipUri) {name : List UInt8}
    (notUser : stricmp name "user" = false) (notMethod : stricmp name "method" = false)
    (isTransport : stricmp name "transport" = true) :
    url.setParam { name, value } = { url with transportParam := value } := by
  simp [SipUri.setParam, notUser, notMethod, isTransport, nonempty]

theorem sipUrlParams_suffix (url : SipUri) :
    (sipUrlParams true url).run more = some ({ url with transportParam := value }, []) := by
  have param : (sipUrlParam url).run more = some ({ url with transportParam := value }, []) := by
    rw [sipUrlParam, run_bind, suffix.param, Option.bind_some, run_pure,
      setParam_transport suffix.nonempty url (by decide) (by decide) (by decide)]
  change (whileNext semicolon sipUrlParam url).run more = _
  rw [whileNext_of_next ends_sipUrlParam suffix.head, run_bind, param]
  exact whileNext_of_other (by simp) _

theorem sipUrlParams_append (url : SipUri) (input : List UInt8) :
    (sipUrlParams true url).run (input ++ more) =
      ((sipUrlParams true url).run input).bind fun read =>
        if read.2 = [] then some ({ read.1 with transportParam := value }, []) else some (read.1, read.2 ++ more) := by
  change (whileNext semicolon sipUrlParam url).run _ = ((whileNext semicolon sipUrlParam url).run _).bind _
  rw [whileNext_append ends_sipUrlParam (steadyOn_sipUrlParam suffix.head suffix.noQuotation)]
  cases reads : (whileNext semicolon sipUrlParam url).run input with
  | none => rfl
  | some read =>
    simp only [Option.bind_some]
    split
    · rename_i empty
      rw [empty]
      exact sipUrlParams_suffix suffix read.1
    · rename_i left
      have stopped := whileNext_stops ends_sipUrlParam reads
      obtain ⟨byte, rest, same⟩ := List.exists_cons_of_ne_nil left
      rw [same] at stopped ⊢
      exact whileNext_of_other (by simpa using stopped) _

omit suffix in
theorem sipUrlTail_nil (url : SipUri) : (sipUrlTail url).run [] = some (url, []) := rfl

/-- The appended parameter joins a URI read to its end by its parameters, and is left alone
    otherwise. -/
theorem sipUrlRest_append (url : SipUri) (input : List UInt8) :
    (sipUrlRest true url).run (input ++ more) =
      ((sipUrlHostPort url >>= sipUrlParams true).run input).bind fun read =>
        if read.2 = [] then some ({ read.1 with transportParam := value }, [])
        else ((sipUrlTail read.1).run read.2).map fun last => (last.1, last.2 ++ more) := by
  rw [sipUrlRest_eq, run_bind, run_bind, run_bind, steady_sipUrlHostPort suffix.head suffix.noBracket url input trivial]
  cases (sipUrlHostPort url).run input with
  | none => rfl
  | some hostPort =>
    simp only [Option.map_some, Option.bind_some, sipUrlParams_append suffix]
    cases (sipUrlParams true hostPort.1).run hostPort.2 with
    | none => rfl
    | some read =>
      simp only [Option.bind_some]
      split
      · rfl
      · exact steady_sipUrlTail suffix read.1 read.2 trivial

end Rest

end TiSIP.Pjsip
