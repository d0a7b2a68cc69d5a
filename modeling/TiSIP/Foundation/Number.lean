import Mathlib.Data.Rat.Defs
import Mathlib.Data.Rat.Lemmas

namespace TiSIP.Foundation

/-- The numeric values an NSNumber can be handed over from JavaScript with. -/
inductive NSNumber
  | finite (value : ℚ)
  | infinite (negative : Bool)
  | notANumber
  deriving DecidableEq

namespace NSNumber

def numberWithInt (value : Int) : NSNumber := .finite value

structure IntConversion where
  outOfRange : NSNumber → Int

def intMin : Int := -2147483648

def intMax : Int := 2147483647

def intValue (conversion : IntConversion) : NSNumber → Int
  | .finite value =>
    -- The conversion of what no C int can hold is the platform's.
    let truncated := value.num.tdiv value.den
    if intMin ≤ truncated ∧ truncated ≤ intMax then truncated else conversion.outOfRange (.finite value)
  | other => conversion.outOfRange other

def isEqual (left right : NSNumber) : Bool := decide (left = right)

theorem numberWithInt_injective : Function.Injective numberWithInt := by
  intro left right same
  simpa [numberWithInt] using same

theorem intValue_numberWithInt (conversion : IntConversion) {value : Int}
    (low : intMin ≤ value) (high : value ≤ intMax) :
    (numberWithInt value).intValue conversion = value := by
  simp [intValue, numberWithInt, low, high]

def saturating : IntConversion where
  outOfRange
    | .finite value => if value < 0 then intMin else intMax
    | .infinite negative => if negative then intMin else intMax
    | .notANumber => 0

theorem intValue_int32 (conversion : IntConversion) (value : Int32) :
    (numberWithInt value.toInt).intValue conversion = value.toInt := by
  apply intValue_numberWithInt
  · exact Int32.le_toInt value
  · exact Int32.toInt_le value

end NSNumber

def removeObject (entries : List NSNumber) (object : NSNumber) : List NSNumber :=
  entries.filter fun entry => !object.isEqual entry

theorem removeObject_absent {entries : List NSNumber} {object : NSNumber} (absent : object ∉ entries) :
    removeObject entries object = entries := by
  apply List.filter_eq_self.mpr
  intro entry member
  have different : object ≠ entry := fun same => absent (same ▸ member)
  simp [NSNumber.isEqual, different]

end TiSIP.Foundation
