import Mathlib.Data.Char
import Mathlib.Data.List.Basic
import Mathlib.Data.List.Forall2
import Mathlib.Data.List.TakeWhile
import Mathlib.Algebra.BigOperators.Group.List.Basic
import Mathlib.Algebra.Order.BigOperators.Group.List

/-- A decoder that reads one character a byte: ASCII bytes are themselves, a higher byte has
    either no reading or a character of its own, which is not the NUL of byte zero. -/
structure BytewiseDecoder where
  high : UInt8 → Option Char
  high_ne_nul : ∀ byte, high byte ≠ some (Char.ofNat 0)

namespace BytewiseDecoder

def strict : BytewiseDecoder where
  high _ := none
  high_ne_nul := by simp

variable (decoder : BytewiseDecoder)

def char (byte : UInt8) : Option Char :=
  if byte.toNat < 128 then some (Char.ofNat byte.toNat) else decoder.high byte

def decode (bytes : List UInt8) : Option (List Char) := bytes.mapM decoder.char

def Readable (bytes : List UInt8) : Prop := ∀ byte ∈ bytes, (decoder.char byte).isSome

/-- The bytes before the terminator, as `strlen` counts them. -/
def upToNul (bytes : List UInt8) : List UInt8 := bytes.takeWhile fun byte => byte != 0

def utf8 (text : List Char) : List UInt8 := text.flatMap String.utf8EncodeChar

def PlainAscii (text : List Char) : Prop := ∀ char ∈ text, char.toNat < 128 ∧ char ≠ Char.ofNat 0

instance (text : List Char) : Decidable (PlainAscii text) :=
  List.decidableBAll (fun char : Char => char.toNat < 128 ∧ char ≠ Char.ofNat 0) text

theorem decoded_reads {bytes : List UInt8} {text : List Char}
    (pairs : List.Forall₂ (fun byte char => decoder.char byte = some char) bytes text) :
    ∀ char ∈ text, ∃ byte ∈ bytes, decoder.char byte = some char := by
  induction pairs with
  | nil => simp
  | cons first _ ih =>
    intro char member
    rcases List.mem_cons.mp member with rfl | member
    · exact ⟨_, List.mem_cons_self, first⟩
    · obtain ⟨byte, inside, reading⟩ := ih char member
      exact ⟨byte, List.mem_cons_of_mem _ inside, reading⟩

theorem ofNat_ascii_toNat {value : Nat} (ascii : value < 128) : (Char.ofNat value).toNat = value := by
  have valid : value.isValidChar := Or.inl (by omega)
  rw [Char.ofNat, dif_pos valid]
  rfl

theorem char_ascii {byte : UInt8} (ascii : byte.toNat < 128) :
    decoder.char byte = some (Char.ofNat byte.toNat) := by
  simp [char, ascii]

theorem char_ne_nul {byte : UInt8} (nonzero : byte ≠ 0) : decoder.char byte ≠ some (Char.ofNat 0) := by
  unfold char
  split
  · rename_i ascii
    intro same
    have values := congrArg Char.toNat (Option.some.inj same)
    rw [ofNat_ascii_toNat ascii, ofNat_ascii_toNat (by decide)] at values
    exact nonzero (UInt8.toNat_inj.mp (by simpa using values))
  · exact decoder.high_ne_nul byte

theorem decode_isSome_iff (bytes : List UInt8) : (decoder.decode bytes).isSome ↔ decoder.Readable bytes := by
  induction bytes with
  | nil => simp [decode, Readable]
  | cons byte bytes ih =>
    simp only [decode, Readable, List.mapM_cons] at ih ⊢
    cases first : decoder.char byte with
    | none => simp [first]
    | some head =>
      cases rest : bytes.mapM decoder.char with
      | none => simpa [first, rest] using ih
      | some tail => simpa [first, rest] using ih

theorem readable_append (first second : List UInt8) :
    decoder.Readable (first ++ second) ↔ decoder.Readable first ∧ decoder.Readable second := by
  simp [Readable, or_imp, forall_and]

theorem readable_nil : decoder.Readable [] := by
  simp [Readable]

theorem readable_terminator : decoder.Readable [0] := by
  simp [Readable, char]

theorem decode_forall {bytes : List UInt8} {text : List Char} (decoded : decoder.decode bytes = some text) :
    List.Forall₂ (fun byte char => decoder.char byte = some char) bytes text := by
  induction bytes generalizing text with
  | nil =>
    simp only [decode, List.mapM_nil, Option.pure_def, Option.some.injEq] at decoded
    subst decoded
    exact .nil
  | cons byte bytes ih =>
    simp only [decode, List.mapM_cons, Option.bind_eq_bind, Option.bind_eq_some_iff, Option.pure_def,
      Option.some.injEq] at decoded
    obtain ⟨head, first, tail, rest, rfl⟩ := decoded
    exact .cons first (ih rest)

theorem utf8_ascii {char : Char} (ascii : char.toNat < 128) :
    String.utf8EncodeChar char = [char.val.toUInt8] ∧ char.val.toUInt8.toNat = char.toNat := by
  have size : char.utf8Size = 1 := by
    rw [Char.utf8Size_eq_one_iff, UInt32.le_iff_toNat_le]
    exact Nat.le_of_lt_succ ascii
  refine ⟨String.utf8EncodeChar_eq_singleton size, ?_⟩
  rw [UInt32.toNat_toUInt8]
  exact Nat.mod_eq_of_lt (Nat.lt_trans ascii (by decide))

theorem utf8_nonzero {char : Char} (valid : char ≠ Char.ofNat 0) :
    ∀ byte ∈ String.utf8EncodeChar char, byte ≠ 0 := by
  by_cases ascii : char.toNat < 128
  · obtain ⟨single, value⟩ := utf8_ascii ascii
    rw [single]
    intro byte member zero
    rw [List.mem_singleton.mp member] at zero
    rw [zero] at value
    exact valid (by rw [← Char.ofNat_toNat char, ← value]; rfl)
  · have tagged : ∀ low high : UInt8, high ≠ 0 → low ||| high ≠ 0 := by
      intro low high nonzero
      simp [nonzero]
    have wide : ¬ char.val ≤ 127 := by
      rw [UInt32.le_iff_toNat_le]
      exact fun low => ascii (Nat.lt_succ_of_le low)
    rw [String.utf8EncodeChar_eq_utf8EncodeCharFast]
    simp only [String.utf8EncodeCharFast, wide, if_false]
    intro byte member
    split at member
    · simp only [List.mem_cons, List.not_mem_nil, or_false] at member
      rcases member with rfl | rfl <;> exact tagged _ _ (by decide)
    · split at member
      · simp only [List.mem_cons, List.not_mem_nil, or_false] at member
        rcases member with rfl | rfl | rfl <;> exact tagged _ _ (by decide)
      · simp only [List.mem_cons, List.not_mem_nil, or_false] at member
        rcases member with rfl | rfl | rfl | rfl <;> exact tagged _ _ (by decide)

theorem upToNul_eq_self {bytes : List UInt8} (nonzero : ∀ byte ∈ bytes, byte ≠ 0) : upToNul bytes = bytes := by
  apply List.takeWhile_eq_self_iff.mpr
  intro byte member
  simpa using nonzero byte member

theorem upToNul_nonzero {bytes : List UInt8} : ∀ byte ∈ upToNul bytes, byte ≠ 0 := by
  intro byte member
  simpa using List.mem_takeWhile_imp member

theorem upToNul_terminated (bytes : List UInt8) : upToNul (bytes ++ [0]) = upToNul bytes := by
  induction bytes with
  | nil => rfl
  | cons byte bytes ih =>
    simp only [upToNul, List.cons_append, List.takeWhile_cons] at ih ⊢
    rw [ih]

theorem upToNul_utf8 {text : List Char} (noNul : ∀ char ∈ text, char ≠ Char.ofNat 0) :
    upToNul (utf8 text) = utf8 text := by
  apply upToNul_eq_self
  intro byte member
  obtain ⟨char, held, encoded⟩ := List.mem_flatMap.mp member
  exact utf8_nonzero (noNul char held) byte encoded

theorem utf8_length (text : List Char) : text.length ≤ (utf8 text).length := by
  induction text with
  | nil => simp
  | cons char text ih =>
    have positive := Char.utf8Size_pos char
    simp only [utf8, List.flatMap_cons, List.length_append, String.length_utf8EncodeChar,
      List.length_cons] at ih ⊢
    omega

theorem utf8_ne_nil {text : List Char} (nonempty : text ≠ []) : utf8 text ≠ [] := by
  have longer := utf8_length text
  have positive := List.length_pos_of_ne_nil nonempty
  exact List.ne_nil_of_length_pos (by omega)

theorem utf8_length_eq_iff (text : List Char) :
    (utf8 text).length = text.length ↔ ∀ char ∈ text, char.toNat < 128 := by
  induction text with
  | nil => simp [utf8]
  | cons char text ih =>
    have positive := Char.utf8Size_pos char
    have longer := utf8_length text
    have size : char.utf8Size = 1 ↔ char.toNat < 128 := by
      rw [Char.utf8Size_eq_one_iff, UInt32.le_iff_toNat_le]
      exact Nat.lt_succ_iff.symm
    have split : (utf8 (char :: text)).length = char.utf8Size + (utf8 text).length := by
      simp [utf8]
    rw [split, List.forall_mem_cons, ← ih, ← size, List.length_cons]
    omega

theorem decode_utf8_plain {text : List Char} (plain : PlainAscii text) :
    decoder.decode (upToNul (utf8 text)) = some text := by
  induction text with
  | nil => rfl
  | cons char text ih =>
    obtain ⟨ascii, valid⟩ := plain char List.mem_cons_self
    have rest := ih fun other member => plain other (List.mem_cons_of_mem _ member)
    obtain ⟨single, value⟩ := utf8_ascii ascii
    have nonzero : char.val.toUInt8 ≠ 0 := utf8_nonzero valid _ (by rw [single]; exact List.mem_singleton_self _)
    have head : decoder.char char.val.toUInt8 = some char := by
      rw [decoder.char_ascii (by omega), value, Char.ofNat_toNat]
    simp only [utf8, List.flatMap_cons, single, List.singleton_append, upToNul, decode] at rest ⊢
    rw [List.takeWhile_cons_of_pos (by simpa using nonzero), List.mapM_cons, head, rest]
    rfl

theorem decode_plain {text : List Char} (plain : PlainAscii text) : decoder.decode (utf8 text) = some text := by
  have decoded := decoder.decode_utf8_plain plain
  rwa [upToNul_utf8 fun char member => (plain char member).2] at decoded

theorem utf8_append (first second : List Char) : utf8 (first ++ second) = utf8 first ++ utf8 second := by
  simp [utf8]

theorem utf8_take {text : List Char} (plain : PlainAscii text) (count : Nat) :
    (utf8 text).take count = utf8 (text.take count) := by
  induction text generalizing count with
  | nil => simp [utf8]
  | cons char text ih =>
    have rest := ih fun other member => plain other (List.mem_cons_of_mem _ member)
    obtain ⟨single, -⟩ := utf8_ascii (plain char List.mem_cons_self).1
    cases count with
    | zero => simp [utf8]
    | succ count =>
      simp only [utf8, List.flatMap_cons, single, List.singleton_append, List.take_succ_cons] at rest ⊢
      rw [rest count]

/-- A text survives encoding as a UTF-8 C string and bytewise decoding exactly when it is plain
    ASCII: a longer encoding would decode to more characters than the text has. -/
theorem decode_utf8_iff (text : List Char) :
    decoder.decode (upToNul (utf8 text)) = some text ↔ PlainAscii text := by
  refine ⟨fun decoded => ?_, decoder.decode_utf8_plain⟩
  have pairs := decoder.decode_forall decoded
  have noNul : ∀ char ∈ text, char ≠ Char.ofNat 0 := by
    intro char member
    obtain ⟨byte, inside, reading⟩ := decoder.decoded_reads pairs char member
    rintro rfl
    exact decoder.char_ne_nul (upToNul_nonzero byte inside) reading
  have lengths : (utf8 text).length = text.length := by
    rw [← upToNul_utf8 noNul]
    exact pairs.length_eq
  exact fun char member => ⟨(utf8_length_eq_iff text).mp lengths char member, noNul char member⟩

end BytewiseDecoder
