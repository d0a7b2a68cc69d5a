import Mathlib.Data.List.DropRight
import TiSIP.Lib.Scanner
import TiSIP.Lib.Text

namespace TiSIP.Pjlib

abbrev PjScanner (α : Type) : Type := Scanner UInt8 α

abbrev tab : UInt8 := 9
abbrev lineFeed : UInt8 := 10
abbrev carriageReturn : UInt8 := 13
abbrev space : UInt8 := 32
abbrev quotation : UInt8 := 34
abbrev percent : UInt8 := 37
abbrev ampersand : UInt8 := 38
abbrev colon : UInt8 := 58
abbrev semicolon : UInt8 := 59
abbrev less : UInt8 := 60
abbrev equals : UInt8 := 61
abbrev greater : UInt8 := 62
abbrev question : UInt8 := 63
abbrev atSign : UInt8 := 64
abbrev leftBracket : UInt8 := 91
abbrev backslash : UInt8 := 92
abbrev rightBracket : UInt8 := 93

section CharacterSpecs

def isDigit (byte : UInt8) : Bool := 48 ≤ byte && byte ≤ 57

def isAlpha (byte : UInt8) : Bool := 97 ≤ byte && byte ≤ 122 || 65 ≤ byte && byte ≤ 90

def isXdigit (byte : UInt8) : Bool := isDigit byte || 97 ≤ byte && byte ≤ 102 || 65 ≤ byte && byte ≤ 70

def isSpace (byte : UInt8) : Bool := byte == space || 9 ≤ byte && byte ≤ 13

def isNewline (byte : UInt8) : Bool := byte == carriageReturn || byte == lineFeed

def inStr (text : String) (byte : UInt8) : Bool := (BytewiseDecoder.utf8 text.toList).contains byte

def alnumSpec (byte : UInt8) : Bool := isAlpha byte || isDigit byte

end CharacterSpecs

abbrev scanPeek (spec : UInt8 → Bool) : PjScanner (List UInt8 × Option UInt8) := Scanner.peekMany spec

abbrev scanGet (spec : UInt8 → Bool) : PjScanner (List UInt8) := Scanner.many1 spec

abbrev scanGetChar : PjScanner UInt8 := Scanner.item fun byte => byte != 0

abbrev scanGetUntilCh (untilChar : UInt8) : PjScanner (List UInt8) := Scanner.upTo untilChar

def scanIsEof : PjScanner Bool := fun input => some (input.isEmpty, input)

def scanSkipWhitespace : PjScanner Unit := do
  let _ ← Scanner.many fun byte => byte == space || byte == tab
  pure ()

/-- The text from the opening quotation mark on, whose bytes so far are `before`, the last one
    first: a quotation mark closes it unless an odd number of backslashes stands before it. -/
def closeQuote (before : List UInt8) : List UInt8 → Option (List UInt8 × List UInt8)
  | [] => none
  | byte :: rest =>
    if byte = lineFeed then none
    else if byte = quotation ∧ (before.takeWhile fun earlier => earlier == backslash).length % 2 = 0 then
      some ((byte :: before).reverse, rest)
    else closeQuote (byte :: before) rest

def scanGetQuote : PjScanner (List UInt8) := fun input =>
  match input with
  | [] => none
  | byte :: rest => if byte = quotation then closeQuote [quotation] rest else none

def hexDigitToVal (byte : UInt8) : UInt8 :=
  if byte ≤ 57 then (byte - 48) &&& 15
  else if byte ≤ 70 then (byte - 65 + 10) &&& 15
  else (byte - 97 + 10) &&& 15

def strUnescape : List UInt8 → List UInt8
  | [] => []
  | [byte] => [byte]
  | [byte, next] => [byte, next]
  | byte :: high :: low :: rest =>
    if byte = percent ∧ isXdigit high ∧ isXdigit low then
      (hexDigitToVal high <<< 4 + hexDigitToVal low) :: strUnescape rest
    else byte :: strUnescape (high :: low :: rest)

def strtoul (text : List UInt8) : Nat :=
  (text.takeWhile isDigit).foldl (fun value byte => value * 10 + (byte - 48).toNat) 0

-- The assignment of an `unsigned long` to an `int` keeps its low 32 bits.
def strtoulInt (text : List UInt8) : Int := (strtoul text : Int).bmod 4294967296

def strTrim (text : List UInt8) : List UInt8 := (text.dropWhile isSpace).rdropWhile isSpace

end TiSIP.Pjlib
