import TiSIP.Foundation.Number
import TiSIP.Lib.Text

namespace TiSIP.Foundation

inductive Fault
  | nullBody
  | uninitialised
  | negativeLength
  | nilString
  deriving DecidableEq

inductive NSObject
  | number (value : NSNumber)
  | string (value : String)
  | pointer (address : Nat)
  deriving DecidableEq

abbrev NSDictionary := List (String × NSObject)

def dictionaryWithObjectsAndKeys : List (Option NSObject × String) → NSDictionary
  | [] => []
  -- The list of arguments ends at the first nil object.
  | (none, _) :: _ => []
  | (some object, key) :: rest => (key, object) :: dictionaryWithObjectsAndKeys rest

def objectForKey (dictionary : NSDictionary) (key : String) : Option NSObject := dictionary.lookup key

def numberObject (value : Int) : NSObject := .number (.numberWithInt value)

def stringWithString : Option String → Except Fault String
  | none => .error .nilString
  | some string => .ok string

def cStringUsingEncoding (string : String) : List UInt8 := BytewiseDecoder.utf8 string.toList ++ [0]

def initWithBytes (decoder : BytewiseDecoder) (bytes : List UInt8) : Option String :=
  (decoder.decode bytes).map String.ofList

theorem initWithBytes_isSome_iff (decoder : BytewiseDecoder) (bytes : List UInt8) :
    (initWithBytes decoder bytes).isSome ↔ decoder.Readable bytes := by
  rw [initWithBytes, Option.isSome_map, decoder.decode_isSome_iff]

theorem initWithBytes_eq_some_iff (decoder : BytewiseDecoder) (bytes : List UInt8) (string : String) :
    initWithBytes decoder bytes = some string ↔ decoder.decode bytes = some string.toList := by
  rw [initWithBytes, Option.map_eq_some_iff]
  constructor
  · rintro ⟨text, decoded, rfl⟩
    rw [decoded, String.toList_ofList]
  · intro decoded
    exact ⟨_, decoded, String.ofList_toList⟩

end TiSIP.Foundation
