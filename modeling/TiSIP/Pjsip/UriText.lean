import TiSIP.Dispatch.PJUtil
import TiSIP.Pjsip.Parser

namespace TiSIP.Pjsip

open Dispatch Pjlib

def parsePjStr (option : ParseOption) (string : PjStr) : Option ParsedUri :=
  parseUri option (string.ptr.take string.slen.toNat)

def parseNSString (option : ParseOption) (string : String) : Option ParsedUri :=
  parsePjStr option (PJUtil.PJStringWithString string)

-- No caller of `pjsip_parse_uri` passes the option for From and To headers.
def callerOption (asNameAddr : Bool) : ParseOption := { asNameAddr, inFromToHdr := false }

/-- The bytes of a string that the library reads: the C string ends at the first NUL. -/
def libraryText (string : String) : List UInt8 := BytewiseDecoder.upToNul (BytewiseDecoder.utf8 string.toList)

theorem parseNSString_eq (option : ParseOption) (string : String) :
    parseNSString option string = parseUri option (libraryText string) := by
  have reads := (PjStr.read_eq_ok_iff _ _).mp (PJUtil.read_PJStringWithString string)
  rw [parseNSString, parsePjStr, reads.2.2, libraryText]

def NoNul (string : String) : Prop := ∀ char ∈ string.toList, char ≠ Char.ofNat 0

instance (string : String) : Decidable (NoNul string) :=
  List.decidableBAll (fun char : Char => char ≠ Char.ofNat 0) string.toList

theorem noNul_append (first second : String) : NoNul (first ++ second) ↔ NoNul first ∧ NoNul second := by
  simp only [NoNul, String.toList_append, List.mem_append, or_imp, forall_and]

theorem libraryText_of_noNul {string : String} (noNul : NoNul string) :
    libraryText string = BytewiseDecoder.utf8 string.toList :=
  BytewiseDecoder.upToNul_utf8 noNul

theorem libraryText_append {string : String} (noNul : NoNul string) (more : String) :
    libraryText (string ++ more) = libraryText string ++ libraryText more := by
  have nonzero : ∀ byte ∈ BytewiseDecoder.utf8 string.toList, (byte != 0) = true := by
    intro byte member
    obtain ⟨char, held, encoded⟩ := List.mem_flatMap.mp member
    simpa using BytewiseDecoder.utf8_nonzero (noNul char held) byte encoded
  rw [libraryText_of_noNul noNul, libraryText, String.toList_append, BytewiseDecoder.utf8_append]
  exact List.takeWhile_append_of_pos nonzero

theorem zero_mem_of_nul {string : String} (nul : ¬ NoNul string) : 0 ∈ BytewiseDecoder.utf8 string.toList := by
  simp only [NoNul, not_forall, not_not] at nul
  obtain ⟨char, held, rfl⟩ := nul
  exact List.mem_flatMap.mpr ⟨Char.ofNat 0, held, by decide⟩

theorem libraryText_append_of_nul {string : String} (nul : ¬ NoNul string) (more : String) :
    libraryText (string ++ more) = libraryText string := by
  have zero : ∃ byte ∈ BytewiseDecoder.utf8 string.toList, (byte != 0) = false := ⟨0, zero_mem_of_nul nul, rfl⟩
  rw [libraryText, String.toList_append, BytewiseDecoder.utf8_append]
  exact Scanner.takeWhile_append_stopped zero _

theorem libraryText_shorter_of_nul {string : String} (nul : ¬ NoNul string) :
    (libraryText string).length < (BytewiseDecoder.utf8 string.toList).length := by
  have cut := List.takeWhile_prefix (fun byte : UInt8 => byte != 0) (l := BytewiseDecoder.utf8 string.toList)
  apply Nat.lt_of_le_of_ne cut.length_le
  intro same
  have whole := cut.eq_of_length same
  rw [List.takeWhile_eq_self_iff] at whole
  simpa using whole 0 (zero_mem_of_nul nul)

theorem parseUri_eq_some_iff (option : ParseOption) (text : List UInt8) (parsed : ParsedUri) :
    parseUri option text = some parsed ↔
      ∃ rest, (intParseUriOrNameAddr option).run text = some (parsed, rest) ∧
        (rest = [] ∨ rest.head?.any isNewline = true) := by
  unfold parseUri
  cases (intParseUriOrNameAddr option).run text with
  | none => simp
  | some read =>
    obtain ⟨uri, rest⟩ := read
    by_cases ends : rest = [] ∨ rest.head?.any isNewline = true
    · simp [ends]
    · simp [ends]

/-- The library reads the string to its end: no NUL cuts it short, and the URI does not stop at a
    line end. -/
def ReadToEnd (asNameAddr : Bool) (uri : String) : Prop :=
  NoNul uri ∧ ∃ parsed, (intParseUriOrNameAddr (callerOption asNameAddr)).run (libraryText uri) = some (parsed, [])

theorem readToEnd_iff {asNameAddr : Bool} {uri : String} {parsed : ParsedUri} {rest : List UInt8}
    (reads : (intParseUriOrNameAddr (callerOption asNameAddr)).run (libraryText uri) = some (parsed, rest)) :
    ReadToEnd asNameAddr uri ↔ NoNul uri ∧ rest = [] := by
  simp [ReadToEnd, reads]

end TiSIP.Pjsip
