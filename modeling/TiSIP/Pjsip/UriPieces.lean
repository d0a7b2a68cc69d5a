import TiSIP.Pjsip.UriPrint

namespace TiSIP.Pjsip

open Pjlib Printer
open BytewiseDecoder (utf8)

section Pieces

abbrev Pieces : Type := List (Piece UInt8)

/-- A text that is refused when it would fill the room. -/
def guarded (text : List UInt8) : Piece UInt8 := { text, spare := 1 }

/-- An escaped text may fill the room. -/
def escaped (unres : UInt8 → Bool) (src : List UInt8) : Pieces :=
  if src = [] then [] else [{ text := escape unres src, spare := 0 }]

def pairPieces (str1 str2 : List UInt8) : Pieces := if str2 ≠ [] then [guarded (str1 ++ str2)] else []

def quotePieces (str1 str2 : List UInt8) (quoteBegin quoteEnd : UInt8) : Pieces :=
  if str2 ≠ [] ∧ str2.head? ≠ some quoteBegin then [guarded (str1 ++ quoteBegin :: str2 ++ [quoteEnd])]
  else pairPieces str1 str2

-- The check before the copy counts the unescaped length, and then some room is left over.
def escapedPairPieces (str1 str2 : List UInt8) (unres : UInt8 → Bool) : Pieces :=
  if str2 ≠ [] then
    [{ text := str1 ++ escape unres str2, spare := if (escape unres str2).length = str2.length then 1 else 0 }]
  else []

def paramPieces (pnameSpec pvalueSpec : UInt8 → Bool) : List SipParam → UInt8 → Pieces
  | [], _ => []
  | p :: rest, sep =>
    guarded [sep] :: (escaped pnameSpec p.name ++
      ((if p.value ≠ [] then
        guarded [equals] :: if p.value.head? = some quotation then [guarded p.value] else escaped pvalueSpec p.value
      else []) ++ paramPieces pnameSpec pvalueSpec rest (if sep = question then ampersand else sep)))

variable (cfg : UriPrintCfg) (context : UriContext) (url : SipUri)

def userPieces : Pieces :=
  if url.user ≠ [] then
    escaped cfg.userPrintSpec url.user ++
      ((if url.passwd ≠ [] then guarded [colon] :: escaped passwdSpec url.passwd else []) ++ [guarded [atSign]])
  else []

def hostPieces : Pieces :=
  if colon ∈ url.host then quotePieces [] url.host leftBracket rightBracket else [guarded url.host]

def PrintsPort : Prop := url.port ≠ 0 ∧ (context ≠ .inFromToHdr ∨ cfg.allowPortInFromToHdr = true)

instance : Decidable (PrintsPort cfg context url) := inferInstanceAs (Decidable (_ ∧ _))

def PrintsTtl : Prop := 0 ≤ url.ttlParam ∧ context ≠ .inFromToHdr ∧ context ≠ .inRoutingHdr

instance : Decidable (PrintsTtl context url) := inferInstanceAs (Decidable (_ ∧ _))

def numberPiece (label : List UInt8) (value : Int) (asked : Nat) : Piece UInt8 where
  text := label ++ pjUtoa value.toNat
  spare := asked - (label ++ pjUtoa value.toNat).length

def portPieces : Pieces := if PrintsPort cfg context url then [numberPiece [colon] url.port 10] else []

def ttlPieces : Pieces := if PrintsTtl context url then [numberPiece (utf8 ";ttl=".toList) url.ttlParam 15] else []

def maddrPieces : Pieces :=
  if context ≠ .inFromToHdr ∧ url.maddrParam ≠ [] then
    if colon ∈ url.maddrParam then quotePieces (utf8 ";maddr=".toList) url.maddrParam leftBracket rightBracket
    else escapedPairPieces (utf8 ";maddr=".toList) url.maddrParam paramCharSpec
  else []

def lrPieces : Pieces :=
  if url.lrParam = true ∧ context ≠ .inFromToHdr ∧ context ≠ .inContactHdr then [guarded (utf8 ";lr".toList)] else []

def urlParamPieces : Pieces :=
  pairPieces (utf8 ";user=".toList) url.userParam ++
    ((if context = .inOther then escapedPairPieces (utf8 ";method=".toList) url.methodParam paramCharSpec else []) ++
    ((if context ≠ .inFromToHdr then escapedPairPieces (utf8 ";transport=".toList) url.transportParam paramCharSpec
      else []) ++
    (ttlPieces context url ++ (maddrPieces context url ++ (lrPieces context url ++
      paramPieces paramCharSpec paramCharSpec url.otherParam semicolon)))))

def headerPieces : Pieces :=
  if context = .inContactHdr ∨ context = .inOther then paramPieces hdrCharSpec hdrCharSpec url.headerParam question
  else []

def urlPieces : Pieces :=
  [guarded (urlScheme url)] ++ ([guarded [colon]] ++ (userPieces cfg url ++ (hostPieces url ++
    (portPieces cfg context url ++ (urlParamPieces context url ++ headerPieces context url)))))

def urlText : List UInt8 := textOf (urlPieces cfg context url)

end Pieces

section Macros

theorem prints_guarded {text : List UInt8} {length : Nat} (same : length = text.length) :
    Prints (do if length ≥ (← room) then refuse else write text) [guarded text] := by
  apply Prints.single
  intro sheet
  rw [run_bind_room]
  change _ = if text.length + 1 ≤ sheet.room then _ else _
  by_cases short : length ≥ sheet.room
  · rw [if_pos short, run_refuse, if_neg (by omega)]
  · rw [if_neg short, run_write, if_pos (by omega), if_pos (by omega)]
    rfl

theorem prints_charCheck (chr : UInt8) : Prints (copyAdvanceCharCheck chr) [guarded [chr]] :=
  prints_guarded rfl

theorem prints_check (str : List UInt8) : Prints (copyAdvanceCheck str) [guarded str] :=
  prints_guarded rfl

theorem prints_pairCheck (str1 str2 : List UInt8) : Prints (copyAdvancePairCheck str1 str2) (pairPieces str1 str2) := by
  apply Prints.ite
  · exact prints_guarded (by simp)
  · exact Prints.done

theorem prints_pairQuote (str1 str2 : List UInt8) (quoteBegin quoteEnd : UInt8) :
    Prints (copyAdvancePairQuote str1 str2 quoteBegin quoteEnd)
      [guarded (str1 ++ quoteBegin :: str2 ++ [quoteEnd])] :=
  prints_guarded (by simp; omega)

theorem prints_pairQuoteCond (str1 str2 : List UInt8) (quoteBegin quoteEnd : UInt8) :
    Prints (copyAdvancePairQuoteCond str1 str2 quoteBegin quoteEnd) (quotePieces str1 str2 quoteBegin quoteEnd) :=
  Prints.ite (prints_pairQuote str1 str2 quoteBegin quoteEnd) (prints_pairCheck str1 str2)

theorem run_escapeInto (str : List UInt8) (unres : UInt8 → Bool) (sheet : Sheet UInt8) :
    (escapeInto str sheet.room unres).run sheet =
      if (escape unres str).length ≤ sheet.room then .ok ((), sheet.after (escape unres str)) else .error .refused := by
  rw [escapeInto, strncpy2Escape_eq]
  split
  · rename_i copied same
    split at same
    · rename_i fits
      rw [← Option.some.inj same, run_write, if_pos fits, if_pos fits]
    · cases same
  · rename_i none
    split at none
    · cases none
    · rename_i long
      rw [run_refuse, if_neg long]

theorem prints_escape (str : List UInt8) (unres : UInt8 → Bool) :
    Prints (copyAdvanceEscape str unres) (escaped unres str) := by
  unfold escaped
  split
  · rename_i empty
    intro sheet
    rw [copyAdvanceEscape, run_bind_room, run_escapeInto, empty]
    simp [Fits]
  · apply Prints.single
    intro sheet
    rw [copyAdvanceEscape, run_bind_room, run_escapeInto, Nat.add_zero]

theorem prints_pairEscape (str1 str2 : List UInt8) (unres : UInt8 → Bool) :
    Prints (copyAdvancePairEscape str1 str2 unres) (escapedPairPieces str1 str2 unres) := by
  apply Prints.ite
  · apply Prints.single
    intro sheet
    have longer : str2.length ≤ (escape unres str2).length := length_le_escape str2
    change _ = if (str1 ++ escape unres str2).length + (if (escape unres str2).length = str2.length then 1 else 0) ≤
      sheet.room then Except.ok ((), sheet.after (str1 ++ escape unres str2)) else Except.error Trouble.refused
    rw [run_bind_room, List.length_append]
    by_cases short : str1.length + str2.length ≥ sheet.room
    · rw [if_pos short, run_refuse, if_neg]
      split <;> omega
    · rw [if_neg short, run_bind, run_write, if_pos (by omega)]
      simp only [run_bind_room, run_escapeInto, Sheet.after_after]
      have same : (sheet.after str1).room = sheet.room - str1.length := rfl
      congr 1
      rw [same]
      simp only [eq_iff_iff]
      split <;> omega
  · exact Prints.done

end Macros

section Url

structure SipUri.InRange (url : SipUri) : Prop where
  port_nonneg : 0 ≤ url.port
  port_lt : url.port < 10 ^ 8
  ttl_lt : url.ttlParam < 10 ^ 9

instance (url : SipUri) : Decidable url.InRange :=
  decidable_of_iff (0 ≤ url.port ∧ url.port < 10 ^ 8 ∧ url.ttlParam < 10 ^ 9)
    ⟨fun ⟨nonneg, port, ttl⟩ => ⟨nonneg, port, ttl⟩, fun range => ⟨range.1, range.2, range.3⟩⟩

variable {cfg : UriPrintCfg} {context : UriContext} {url : SipUri}

theorem prints_param (pnameSpec pvalueSpec : UInt8 → Bool) (params : List SipParam) (sep : UInt8) :
    Prints (paramPrintOn pnameSpec pvalueSpec params sep) (paramPieces pnameSpec pvalueSpec params sep) := by
  induction params generalizing sep with
  | nil => exact Prints.done
  | cons p rest ih =>
    have value : Prints (paramPrintValue pvalueSpec p) (if p.value ≠ [] then
        guarded [equals] :: if p.value.head? = some quotation then [guarded p.value] else escaped pvalueSpec p.value
      else []) :=
      ((prints_charCheck equals).bind ((prints_check _).ite (prints_escape _ _))).ite Prints.done
    exact (prints_charCheck sep).bind ((prints_escape p.name pnameSpec).bind (value.bind (ih _)))

theorem unsignedLong_eq {value : Int} (nonneg : 0 ≤ value) (small : value < 10 ^ 9) :
    cfg.unsignedLong value = value.toNat := by
  have wide : (2 : Int) ^ 32 ≤ 2 ^ cfg.ulongBits := pow_le_pow_right₀ (by decide) cfg.wide
  rw [UriPrintCfg.unsignedLong, Int.emod_eq_of_lt nonneg (by omega)]

theorem run_number {label : List UInt8} {value : Int} {asked : Nat} {sheet : Sheet UInt8} (nonneg : 0 ≤ value)
    (small : value < 10 ^ 9) (covers : label.length + (pjUtoa value.toNat).length + 1 ≤ asked)
    (enough : asked ≤ sheet.room) :
    (do write label; printUtoa (cfg.unsignedLong value)).run sheet =
      .ok ((), sheet.after (label ++ pjUtoa value.toNat)) := by
  have same : (sheet.after label).room = sheet.room - label.length := rfl
  rw [run_bind, run_write, if_pos (by omega), unsignedLong_eq nonneg small]
  simp only [printUtoa]
  rw [run_bind, run_touch, if_pos (by omega)]
  simp only [run_write]
  rw [if_pos (by omega), Sheet.after_after]

theorem charCheck_of_room {chr : UInt8} {sheet : Sheet UInt8} (enough : 1 < sheet.room) :
    (copyAdvanceCharCheck chr).run sheet = (write [chr]).run sheet := by
  simp only [copyAdvanceCharCheck]
  rw [run_bind_room, if_neg (by omega)]

theorem prints_port (range : url.InRange) : Prints (urlPrintPort cfg context url) (portPieces cfg context url) := by
  apply Prints.ite
  · have small := range.port_lt
    have digits : (pjUtoa url.port.toNat).length ≤ 8 := pjUtoa_length_le (by decide) (by omega)
    apply Prints.single
    intro sheet
    have need : (numberPiece [colon] url.port 10).text.length + (numberPiece [colon] url.port 10).spare = 10 := by
      simp only [numberPiece, List.length_append, List.length_cons, List.length_nil]
      omega
    rw [run_bind_room, need]
    by_cases short : sheet.room < 10
    · rw [if_pos short, run_refuse, if_neg (by omega)]
    · have covers : [colon].length + (pjUtoa url.port.toNat).length + 1 ≤ 10 := by
        simp only [List.length_cons, List.length_nil]
        omega
      have printed : (do write [colon]; printUtoa (cfg.unsignedLong url.port) : Printer UInt8 Unit).run sheet = _ :=
        run_number range.port_nonneg (by omega) covers (by omega)
      rw [run_bind] at printed
      rw [if_neg short, if_pos (by omega), run_bind, charCheck_of_room (by omega), printed]
      rfl
  · exact Prints.done

theorem prints_ttl (range : url.InRange) : Prints (urlPrintTtl cfg context url) (ttlPieces context url) := by
  apply Prints.ite_of
  · intro printed
    have small := range.ttl_lt
    have nonneg := printed.1
    have digits : (pjUtoa url.ttlParam.toNat).length ≤ 9 := pjUtoa_length_le (by decide) (by omega)
    have label : (utf8 ";ttl=".toList).length = 5 := by decide
    apply Prints.single
    intro sheet
    have need : (numberPiece (utf8 ";ttl=".toList) url.ttlParam 15).text.length +
        (numberPiece (utf8 ";ttl=".toList) url.ttlParam 15).spare = 15 := by
      simp only [numberPiece, List.length_append]
      omega
    rw [run_bind_room, need]
    by_cases short : sheet.room < 15
    · rw [if_pos short, run_refuse, if_neg (by omega)]
    · rw [if_neg short, if_pos (by omega)]
      exact run_number nonneg small (by omega) (show 15 ≤ sheet.room by omega)
  · exact Prints.done

theorem prints_lr : Prints (urlPrintLr context url) (lrPieces context url) := by
  apply Prints.ite
  · have checks := prints_check (utf8 ";lr".toList)
    have label : (utf8 ";lr".toList).length = 3 := by decide
    apply Prints.single
    intro sheet
    rw [run_bind_room]
    by_cases short : sheet.room < 3
    · rw [if_pos short, run_refuse, if_neg]
      simp only [guarded]
      omega
    · rw [if_neg short, checks]
      simp [Fits]
  · exact Prints.done

theorem prints_urlParams (range : url.InRange) :
    Prints (urlPrintParams cfg context url) (urlParamPieces context url) := by
  have method : Prints (urlPrintMethod context url) _ := (prints_pairEscape _ _ _).ite Prints.done
  have transport : Prints (urlPrintTransport context url) _ := (prints_pairEscape _ _ _).ite Prints.done
  have maddr : Prints (urlPrintMaddr context url) (maddrPieces context url) :=
    ((prints_pairQuoteCond _ _ _ _).ite (prints_pairEscape _ _ _)).ite Prints.done
  exact (prints_pairCheck _ _).bind (method.bind (transport.bind ((prints_ttl range).bind (maddr.bind
    (prints_lr.bind (prints_param _ _ _ _))))))

theorem prints_urlText (range : url.InRange) : Prints (urlPrintText cfg context url) (urlPieces cfg context url) := by
  have passwd : Prints (urlPrintPasswd url) _ :=
    ((prints_charCheck colon).bind (prints_escape url.passwd passwdSpec)).ite Prints.done
  have user : Prints (urlPrintUser cfg url) (userPieces cfg url) :=
    ((prints_escape _ _).bind (passwd.bind (prints_charCheck atSign))).ite Prints.done
  have host : Prints (urlPrintHost url) (hostPieces url) := (prints_pairQuoteCond _ _ _ _).ite (prints_check _)
  have headers : Prints (urlPrintHeaders context url) (headerPieces context url) :=
    (prints_param _ _ _ _).ite Prints.done
  exact (prints_check _).bind ((prints_charCheck colon).bind (user.bind (host.bind ((prints_port range).bind
    ((prints_urlParams range).bind headers)))))

/-- The printing of a URL in full: refused where a piece finds too little room, and otherwise the text, with
    the terminator within the buffer or one byte behind it. -/
theorem run_urlPrint (range : url.InRange) {size : Nat} (positive : 0 < size) :
    (urlPrint cfg context url).run (Sheet.blank size) =
      if Fits (urlPieces cfg context url) size then
        if (urlText cfg context url).length < size then
          .ok ((), (Sheet.blank size).after (urlText cfg context url))
        else .error .overrun
      else .error .refused := by
  have prints : Prints (urlPrintText cfg context url) (urlPieces cfg context url) := prints_urlText range
  have terminated := prints.terminated (Sheet.blank size)
  simp only [urlPrint]
  rw [run_bind, run_touch, if_pos (show 1 ≤ (Sheet.blank size).room from positive)]
  exact terminated

end Url

section Bounds

variable {cfg : UriPrintCfg} {context : UriContext} {url : SipUri} {most : Nat} (one : 1 ≤ most)

include one

theorem asks_guarded (text : List UInt8) : Asks most (guarded text) :=
  ⟨one, fun none => absurd none (by simp [guarded])⟩

theorem allAsk_guarded (text : List UInt8) : AllAsk most [guarded text] :=
  AllAsk.nil.cons (asks_guarded one text)

theorem allAsk_pair (str1 str2 : List UInt8) : AllAsk most (pairPieces str1 str2) :=
  AllAsk.ite (fun _ => allAsk_guarded one _) AllAsk.nil

theorem allAsk_quote (str1 str2 : List UInt8) (quoteBegin quoteEnd : UInt8) :
    AllAsk most (quotePieces str1 str2 quoteBegin quoteEnd) :=
  AllAsk.ite (fun _ => allAsk_guarded one _) (allAsk_pair one _ _)

omit one in
theorem allAsk_escaped (unres : UInt8 → Bool) (src : List UInt8) : AllAsk most (escaped unres src) := by
  unfold escaped
  split
  · exact AllAsk.nil
  · rename_i nonempty
    exact AllAsk.nil.cons ⟨Nat.zero_le _, fun _ => escape_ne_nil nonempty⟩

theorem allAsk_escapedPair (str1 str2 : List UInt8) (unres : UInt8 → Bool) :
    AllAsk most (escapedPairPieces str1 str2 unres) := by
  apply AllAsk.ite _ AllAsk.nil
  intro nonempty
  apply AllAsk.nil.cons
  constructor
  · dsimp only
    split <;> omega
  · intro _
    simp [escape_ne_nil nonempty]

theorem allAsk_param (pnameSpec pvalueSpec : UInt8 → Bool) (params : List SipParam) (sep : UInt8) :
    AllAsk most (paramPieces pnameSpec pvalueSpec params sep) := by
  induction params generalizing sep with
  | nil => exact AllAsk.nil
  | cons p rest ih =>
    apply AllAsk.cons (asks_guarded one _)
    apply (allAsk_escaped _ _).append
    apply AllAsk.append _ (ih _)
    apply AllAsk.ite _ AllAsk.nil
    intro _
    apply AllAsk.cons (asks_guarded one _)
    exact AllAsk.ite (fun _ => allAsk_guarded one _) (allAsk_escaped _ _)

omit one in
theorem asks_number {label : List UInt8} {value : Int} {asked : Nat} (nonempty : label ≠ [])
    (covers : asked ≤ most + label.length + 1) : Asks most (numberPiece label value asked) := by
  have digits := List.length_pos_iff.mpr (pjUtoa_ne_nil value.toNat)
  constructor
  · simp only [numberPiece, List.length_append]
    omega
  · intro _
    simp [numberPiece, nonempty]

theorem urlPieces_ask (port : PrintsPort cfg context url → 8 ≤ most) (ttl : PrintsTtl context url → 9 ≤ most) :
    AllAsk most (urlPieces cfg context url) := by
  have user : AllAsk most (userPieces cfg url) := by
    apply AllAsk.ite _ AllAsk.nil
    intro _
    apply (allAsk_escaped _ _).append
    apply AllAsk.append _ (allAsk_guarded one _)
    exact AllAsk.ite (fun _ => (allAsk_escaped _ _).cons (asks_guarded one _)) AllAsk.nil
  have host : AllAsk most (hostPieces url) :=
    AllAsk.ite (fun _ => allAsk_quote one _ _ _ _) (allAsk_guarded one _)
  have ports : AllAsk most (portPieces cfg context url) := by
    apply AllAsk.ite _ AllAsk.nil
    intro printed
    have enough := port printed
    apply AllAsk.nil.cons (asks_number (by simp) _)
    simp only [List.length_cons, List.length_nil]
    omega
  have ttls : AllAsk most (ttlPieces context url) := by
    apply AllAsk.ite _ AllAsk.nil
    intro printed
    have enough := ttl printed
    have label : (utf8 ";ttl=".toList).length = 5 := by decide
    apply AllAsk.nil.cons (asks_number (by decide) _)
    omega
  have maddr : AllAsk most (maddrPieces context url) := by
    apply AllAsk.ite _ AllAsk.nil
    intro _
    exact AllAsk.ite (fun _ => allAsk_quote one _ _ _ _) (allAsk_escapedPair one _ _ _)
  have lr : AllAsk most (lrPieces context url) := AllAsk.ite (fun _ => allAsk_guarded one _) AllAsk.nil
  have params : AllAsk most (urlParamPieces context url) := by
    apply (allAsk_pair one _ _).append
    apply (AllAsk.ite (fun _ => allAsk_escapedPair one _ _ _) AllAsk.nil).append
    apply (AllAsk.ite (fun _ => allAsk_escapedPair one _ _ _) AllAsk.nil).append
    exact ttls.append (maddr.append (lr.append (allAsk_param one _ _ _ _)))
  have headers : AllAsk most (headerPieces context url) :=
    AllAsk.ite (fun _ => allAsk_param one _ _ _ _) AllAsk.nil
  exact (allAsk_guarded one _).append ((allAsk_guarded one _).append (user.append (host.append
    (ports.append (params.append headers)))))

omit one

def EndsEscaped (cfg : UriPrintCfg) (context : UriContext) (url : SipUri) : Prop :=
  ∃ final, (urlPieces cfg context url).getLast? = some final ∧ final.spare = 0

theorem urlPieces_last (cfg : UriPrintCfg) (context : UriContext) (url : SipUri) :
    ∃ final, (urlPieces cfg context url).getLast? = some final := by
  apply Option.isSome_iff_exists.mp
  simp [urlPieces]

/-- `pjsip_url_print` gives the text of the URL and no other, and with nine bytes more than the text it always
    does. It writes outside its buffer only where the buffer is just as long as the text and an escaped part
    stands last; there it does so whenever it prints no number. -/
theorem urlPrint_bounds (range : url.InRange) {size : Nat} (positive : 0 < size) :
    ((urlText cfg context url).length + 9 ≤ size →
      (urlPrint cfg context url).run (Sheet.blank size) =
        .ok ((), (Sheet.blank size).after (urlText cfg context url))) ∧
    (∀ sheet, (urlPrint cfg context url).run (Sheet.blank size) = .ok ((), sheet) →
      sheet.printed = urlText cfg context url ∧ (urlText cfg context url).length < size) ∧
    ((urlPrint cfg context url).run (Sheet.blank size) = .error .overrun →
      size = (urlText cfg context url).length ∧ EndsEscaped cfg context url) ∧
    (¬ PrintsPort cfg context url → ¬ PrintsTtl context url → size = (urlText cfg context url).length →
      EndsEscaped cfg context url → (urlPrint cfg context url).run (Sheet.blank size) = .error .overrun) := by
  rw [run_urlPrint range positive]
  obtain ⟨final, last⟩ := urlPieces_last cfg context url
  refine ⟨fun enough => ?_, fun sheet printed => ?_, fun overruns => ?_, fun noPort noTtl exact ends => ?_⟩
  · have asks : AllAsk 9 (urlPieces cfg context url) :=
      urlPieces_ask (by omega) (fun _ => by omega) fun _ => le_rfl
    rw [if_pos (fits_of_spare (fun piece member => (asks piece member).1) enough), if_pos (by omega)]
  · split_ifs at printed with fits room
    have same : (Sheet.blank size).after (urlText cfg context url) = sheet :=
      congrArg Prod.snd (Except.ok.inj printed)
    rw [← same]
    exact ⟨List.nil_append _, room⟩
  · split_ifs at overruns with fits room
    · have within := fits.length_le
      constructor
      · exact Nat.le_antisymm (Nat.le_of_not_lt room) within
      · by_contra other
        have spare : 0 < final.spare := Nat.pos_of_ne_zero fun none => other ⟨final, last, none⟩
        exact room (fits.length_lt ⟨final, last, spare⟩)
    · cases overruns
  · obtain ⟨escapedLast, same, none⟩ := ends
    have asks : AllAsk 1 (urlPieces cfg context url) :=
      urlPieces_ask le_rfl (fun printed => absurd printed noPort) fun printed => absurd printed noTtl
    have fits := fits_exactly asks same none
    rw [exact]
    change (if Fits _ (textOf _).length then if (textOf _).length < (textOf _).length then _ else _ else _) = _
    rw [if_pos fits, if_neg (Nat.lt_irrefl _)]

def outboundContact : SipUri :=
  { sipUriCreate false with
    user := utf8 "bob".toList
    host := utf8 "10.0.0.2".toList
    otherParam := [{ name := utf8 "ob".toList, value := [] }] }

theorem outboundContact_overruns :
    outboundContact.InRange ∧
      (urlPrint defaultUriPrintCfg .inContactHdr outboundContact).run (Sheet.blank 19) = .error .overrun := by
  have range : outboundContact.InRange := by decide
  have ends : EndsEscaped defaultUriPrintCfg .inContactHdr outboundContact :=
    ⟨{ text := utf8 "ob".toList, spare := 0 }, by decide +kernel, rfl⟩
  exact ⟨range, (urlPrint_bounds range (by decide)).2.2.2 (by decide) (by decide) (by decide +kernel) ends⟩

end Bounds

end TiSIP.Pjsip
