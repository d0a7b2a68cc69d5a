import TiSIP.Foundation.Objects

namespace TiSIP.Dispatch

open Foundation

/-- A `pj_str_t`: the bytes known to be initialised from `ptr` on, and the length field. -/
structure PjStr where
  ptr : List UInt8
  slen : Int
  deriving DecidableEq

namespace PjStr

def ofBytes (bytes : List UInt8) : PjStr := { ptr := bytes, slen := bytes.length }

def literal (text : String) : PjStr := ofBytes (BytewiseDecoder.utf8 text.toList)

def read (string : PjStr) : Except Fault (List UInt8) :=
  if string.slen < 0 then .error .negativeLength
  else if string.ptr.length < string.slen.toNat then .error .uninitialised
  else .ok (string.ptr.take string.slen.toNat)

@[simp]
theorem read_ofBytes (bytes : List UInt8) : (ofBytes bytes).read = .ok bytes := by
  have nonnegative : ¬ ((bytes.length : Int) < 0) := by omega
  simp [read, ofBytes, nonnegative]

theorem read_eq_ok_iff (string : PjStr) (bytes : List UInt8) :
    string.read = .ok bytes ↔
      0 ≤ string.slen ∧ string.slen ≤ string.ptr.length ∧ string.ptr.take string.slen.toNat = bytes := by
  unfold read
  split
  · constructor
    · intro impossible
      cases impossible
    · intro held
      omega
  · split
    · constructor
      · intro impossible
        cases impossible
      · intro held
        omega
    · constructor
      · intro same
        cases same
        exact ⟨by omega, by omega, rfl⟩
      · rintro ⟨-, -, same⟩
        rw [same]

end PjStr

namespace PJUtil

def stringWithPJString (decoder : BytewiseDecoder) (pjString : PjStr) : Except Fault (Option String) :=
  pjString.read.map (initWithBytes decoder)

-- `pj_cstr` takes the length with `strlen`.
def PJStringWithString (string : String) : PjStr :=
  let cStr := cStringUsingEncoding string
  { ptr := cStr, slen := (BytewiseDecoder.upToNul cStr).length }

/-- `[NSString stringWithString:[PJUtil stringWithPJString:s]]`, as every dispatch copies a string. -/
def copied (decoder : BytewiseDecoder) (pjString : PjStr) : Except Fault String := do
  stringWithString (← stringWithPJString decoder pjString)

theorem read_PJStringWithString (string : String) :
    (PJStringWithString string).read =
      .ok (BytewiseDecoder.upToNul (BytewiseDecoder.utf8 string.toList)) := by
  have kept := BytewiseDecoder.upToNul_terminated (BytewiseDecoder.utf8 string.toList)
  have shorter : (BytewiseDecoder.upToNul (cStringUsingEncoding string)).length ≤
      (cStringUsingEncoding string).length := (List.takeWhile_sublist _).length_le
  rw [PjStr.read_eq_ok_iff]
  refine ⟨Int.natCast_nonneg _, by simpa [PJStringWithString] using shorter, ?_⟩
  have whole := List.takeWhile_prefix (l := cStringUsingEncoding string) fun byte => byte != 0
  rw [← kept]
  exact (List.prefix_iff_eq_take.mp whole).symm

theorem copied_eq_ok_iff (decoder : BytewiseDecoder) (pjString : PjStr) (string : String) :
    copied decoder pjString = .ok string ↔
      ∃ bytes, pjString.read = .ok bytes ∧ initWithBytes decoder bytes = some string := by
  unfold copied stringWithPJString
  cases pjString.read with
  | error fault => simp [Except.map, bind, Except.bind]
  | ok bytes =>
    cases decoded : initWithBytes decoder bytes with
    | none => simp [Except.map, bind, Except.bind, stringWithString, decoded]
    | some other => simp [Except.map, bind, Except.bind, stringWithString, decoded]

theorem copied_succeeds_iff (decoder : BytewiseDecoder) (pjString : PjStr) :
    (∃ string, copied decoder pjString = .ok string) ↔
      ∃ bytes, pjString.read = .ok bytes ∧ decoder.Readable bytes := by
  simp only [copied_eq_ok_iff, ← initWithBytes_isSome_iff, Option.isSome_iff_exists]
  constructor
  · rintro ⟨string, bytes, reads, decoded⟩
    exact ⟨bytes, reads, string, decoded⟩
  · rintro ⟨bytes, reads, string, decoded⟩
    exact ⟨string, bytes, reads, decoded⟩

theorem copied_ofBytes_succeeds_iff (decoder : BytewiseDecoder) (bytes : List UInt8) :
    (∃ string, copied decoder (.ofBytes bytes) = .ok string) ↔ decoder.Readable bytes := by
  simp [copied_succeeds_iff]

end PJUtil

end TiSIP.Dispatch
