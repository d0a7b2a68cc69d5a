import Mathlib.Data.Nat.Digits.Lemmas
import TiSIP.Pjlib.Scanner

namespace TiSIP.Pjlib

section Escapes

def pjHexDigits : List UInt8 := BytewiseDecoder.utf8 "0123456789abcdef".toList

def valToHexDigit (value : UInt8) : List UInt8 :=
  [pjHexDigits.getD ((value &&& 0xF0) >>> 4).toNat 0, pjHexDigits.getD (value &&& 0x0F).toNat 0]

/-- The loop of `pj_strncpy2_escape` over the source, with so many places left before `dst_end`. -/
def strncpyEscapeLoop (unres : UInt8 → Bool) : List UInt8 → Nat → Option (List UInt8)
  | [], _ => some []
  | byte :: rest, places =>
    if places = 0 then none
    else if unres byte then (strncpyEscapeLoop unres rest (places - 1)).map fun copied => byte :: copied
    else if 3 ≤ places then
      (strncpyEscapeLoop unres rest (places - 3)).map fun copied => percent :: valToHexDigit byte ++ copied
    else none

def strncpy2Escape (src : List UInt8) (max : Nat) (unres : UInt8 → Bool) : Option (List UInt8) :=
  if max < src.length then none else strncpyEscapeLoop unres src max

def escapeByte (unres : UInt8 → Bool) (byte : UInt8) : List UInt8 :=
  if unres byte then [byte] else percent :: valToHexDigit byte

def escape (unres : UInt8 → Bool) (src : List UInt8) : List UInt8 := src.flatMap (escapeByte unres)

variable {unres spec : UInt8 → Bool}

@[simp]
theorem escape_nil : escape unres [] = [] := rfl

theorem escape_cons (byte : UInt8) (rest : List UInt8) :
    escape unres (byte :: rest) = escapeByte unres byte ++ escape unres rest := rfl

theorem length_le_escape (src : List UInt8) : src.length ≤ (escape unres src).length := by
  induction src with
  | nil => simp
  | cons byte rest ih =>
    have one : 1 ≤ (escapeByte unres byte).length := by
      unfold escapeByte
      split <;> simp
    rw [escape_cons, List.length_append, List.length_cons]
    omega

theorem strncpyEscapeLoop_eq (src : List UInt8) (places : Nat) :
    strncpyEscapeLoop unres src places =
      if (escape unres src).length ≤ places then some (escape unres src) else none := by
  induction src generalizing places with
  | nil => simp [strncpyEscapeLoop]
  | cons byte rest ih =>
    simp only [strncpyEscapeLoop, escape_cons, escapeByte]
    by_cases admitted : unres byte = true
    · simp only [admitted, if_true, ih, List.singleton_append, List.length_cons]
      grind
    · have hex : (valToHexDigit byte).length = 2 := rfl
      simp only [admitted, Bool.false_eq_true, if_false, ih, List.cons_append, List.length_cons, List.length_append, hex]
      grind

theorem strncpy2Escape_eq (src : List UInt8) (max : Nat) :
    strncpy2Escape src max unres = if (escape unres src).length ≤ max then some (escape unres src) else none := by
  have longer : src.length ≤ (escape unres src).length := length_le_escape src
  rw [strncpy2Escape, strncpyEscapeLoop_eq]
  grind

theorem escape_ne_nil {src : List UInt8} (nonempty : src ≠ []) : escape unres src ≠ [] := by
  have longer : src.length ≤ (escape unres src).length := length_le_escape src
  have positive := List.length_pos_iff.mpr nonempty
  apply List.ne_nil_of_length_pos
  omega

theorem valToHexDigit_xdigit (value : UInt8) : ∀ byte ∈ valToHexDigit value, isXdigit byte = true := by
  have all : ∀ value : Fin 256, ∀ byte ∈ valToHexDigit (UInt8.ofFin value), isXdigit byte = true := by decide +kernel
  exact all value.toFin

theorem escape_admitted {src : List UInt8} (wider : ∀ byte, unres byte = true → spec byte = true)
    (admitsPercent : spec percent = true) (admitsHex : ∀ byte, isXdigit byte = true → spec byte = true) :
    ∀ byte ∈ escape unres src, spec byte = true := by
  intro byte member
  obtain ⟨original, -, written⟩ := List.mem_flatMap.mp member
  unfold escapeByte at written
  split at written
  · rename_i plain
    rw [List.mem_singleton.mp written]
    exact wider original plain
  · rcases List.mem_cons.mp written with rfl | digit
    · exact admitsPercent
    · exact admitsHex byte (valToHexDigit_xdigit original byte digit)

theorem strUnescape_escaped (value : UInt8) (rest : List UInt8) :
    strUnescape (percent :: valToHexDigit value ++ rest) = value :: strUnescape rest := by
  have all : ∀ value : Fin 256,
      (hexDigitToVal ((valToHexDigit (UInt8.ofFin value)).getD 0 0) <<< 4 +
        hexDigitToVal ((valToHexDigit (UInt8.ofFin value)).getD 1 0)) = UInt8.ofFin value := by decide +kernel
  have back := all value.toFin
  have digits := valToHexDigit_xdigit value
  simp only [valToHexDigit, List.mem_cons, List.not_mem_nil, or_false, forall_eq_or_imp, forall_eq] at digits
  simp only [valToHexDigit, List.cons_append, List.nil_append, strUnescape, digits, and_self, if_true]
  congr 1

def hexAhead : List UInt8 → Bool
  | high :: low :: _ => isXdigit high && isXdigit low
  | _ => false

theorem strUnescape_cons {byte : UInt8} {rest : List UInt8} (plain : byte = percent → hexAhead rest = false) :
    strUnescape (byte :: rest) = byte :: strUnescape rest := by
  rcases rest with _ | ⟨high, _ | ⟨low, rest⟩⟩
  · rfl
  · rfl
  · have other : ¬ (byte = percent ∧ isXdigit high = true ∧ isXdigit low = true) := by
      intro ⟨isPercent, highDigit, lowDigit⟩
      simp [hexAhead, highDigit, lowDigit] at plain
      exact plain isPercent
    rw [strUnescape, if_neg other]

theorem escape_head {src tail : List UInt8} {digit : UInt8} (hex : isXdigit digit = true) (written : escape unres src = digit :: tail) :
    ∃ rest, src = digit :: rest ∧ escape unres rest = tail := by
  cases src with
  | nil => cases written
  | cons byte rest =>
    rw [escape_cons, escapeByte] at written
    split at written
    · obtain ⟨rfl, same⟩ := List.cons.inj written
      exact ⟨rest, rfl, same⟩
    · have isPercent := (List.cons.inj written).1
      rw [← isPercent] at hex
      exact absurd hex (by decide)

theorem strUnescape_escape (admitsPercent : unres percent = true)
    (admitsHex : ∀ byte, isXdigit byte = true → unres byte = true) (src : List UInt8) :
    strUnescape (escape unres src) = strUnescape src := by
  generalize size : src.length = bound
  induction bound using Nat.strong_induction_on generalizing src with
  | _ bound ih =>
    cases src with
    | nil => rfl
    | cons byte rest =>
      rw [List.length_cons] at size
      have later := ih rest.length (by omega) rest rfl
      by_cases plain : unres byte = true
      · have same : escape unres (byte :: rest) = byte :: escape unres rest := by
          simp [escape_cons, escapeByte, plain]
        by_cases ahead : byte = percent ∧ hexAhead rest = true
        · obtain ⟨rfl, digits⟩ := ahead
          rcases rest with _ | ⟨high, _ | ⟨low, tail⟩⟩
          · cases digits
          · cases digits
          · obtain ⟨highDigit, lowDigit⟩ := Bool.and_eq_true_iff.mp digits
            have last := ih tail.length (by simp at size; omega) tail rfl
            simp [escape_cons, escapeByte, admitsPercent, admitsHex high highDigit, admitsHex low lowDigit,
              strUnescape, highDigit, lowDigit, last]
        · have unread : byte = percent → hexAhead rest = false := fun isPercent => by
            simpa [isPercent] using ahead
          have unwritten : byte = percent → hexAhead (escape unres rest) = false := fun isPercent => by
            by_contra written
            rcases shape : escape unres rest with _ | ⟨high, _ | ⟨low, tail⟩⟩
            · exact written (by rw [shape]; rfl)
            · exact written (by rw [shape]; rfl)
            · simp only [shape, hexAhead, Bool.not_eq_false, Bool.and_eq_true] at written
              obtain ⟨middle, rfl, next⟩ := escape_head written.1 shape
              obtain ⟨others, rfl, -⟩ := escape_head written.2 next
              simp [hexAhead, written] at unread
              exact unread isPercent
          rw [same, strUnescape_cons unwritten, strUnescape_cons unread, later]
      · have other : byte ≠ percent := fun isPercent => plain (isPercent ▸ admitsPercent)
        have same : escape unres (byte :: rest) = percent :: valToHexDigit byte ++ escape unres rest := by
          simp [escape_cons, escapeByte, plain]
        rw [same, strUnescape_escaped, strUnescape_cons fun isPercent => absurd isPercent other, later]

end Escapes

section Numerals

def pjUtoa (value : Nat) : List UInt8 :=
  if value = 0 then [48] else (Nat.digits 10 value).reverse.map fun digit => 48 + digit.toUInt8

theorem digit_isDigit {digit : Nat} (small : digit < 10) : isDigit (48 + digit.toUInt8) = true := by
  have all : ∀ digit < 10, isDigit (48 + Nat.toUInt8 digit) = true := by decide
  exact all digit small

theorem pjUtoa_digits (value : Nat) : ∀ byte ∈ pjUtoa value, isDigit byte = true := by
  intro byte member
  unfold pjUtoa at member
  split at member
  · rw [List.mem_singleton.mp member]
    decide
  · obtain ⟨digit, held, rfl⟩ := List.mem_map.mp member
    exact digit_isDigit (Nat.digits_lt_base (by decide) (List.mem_reverse.mp held))

theorem pjUtoa_ne_nil (value : Nat) : pjUtoa value ≠ [] := by
  unfold pjUtoa
  split
  · simp
  · rename_i positive
    simpa using Nat.digits_ne_nil_iff_ne_zero.mpr positive

theorem strtoul_digits {digits : List Nat} (small : ∀ digit ∈ digits, digit < 10) :
    strtoul (digits.reverse.map fun digit => 48 + digit.toUInt8) = Nat.ofDigits 10 digits := by
  have all : ∀ byte ∈ digits.reverse.map fun digit => 48 + digit.toUInt8, isDigit byte = true := by
    intro byte member
    obtain ⟨digit, held, rfl⟩ := List.mem_map.mp member
    exact digit_isDigit (small digit (List.mem_reverse.mp held))
  rw [strtoul, List.takeWhile_eq_self_iff.mpr all]
  clear all
  induction digits with
  | nil => rfl
  | cons digit digits ih =>
    have back : ∀ digit < 10, (48 + Nat.toUInt8 digit - 48).toNat = digit := by decide
    have here := small digit List.mem_cons_self
    rw [List.reverse_cons, List.map_append, List.foldl_append, Nat.ofDigits_cons,
      ih fun other member => small other (List.mem_cons_of_mem _ member)]
    simp only [List.map_cons, List.map_nil, List.foldl_cons, List.foldl_nil, back digit here]
    omega

theorem strtoul_pjUtoa (value : Nat) : strtoul (pjUtoa value) = value := by
  unfold pjUtoa
  split
  · rename_i zero
    rw [zero]
    decide
  · rw [strtoul_digits fun digit member => Nat.digits_lt_base (by decide) member, Nat.ofDigits_digits]

theorem pjUtoa_length_le {value places : Nat} (positive : 0 < places) (small : value < 10 ^ places) :
    (pjUtoa value).length ≤ places := by
  unfold pjUtoa
  split
  · exact positive
  · rw [List.length_map, List.length_reverse]
    exact (Nat.digits_length_le_iff (by decide) value).mpr small

end Numerals

end TiSIP.Pjlib
