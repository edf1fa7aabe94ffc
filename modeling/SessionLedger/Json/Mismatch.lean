import SessionLedger.Float64.Shortest
import SessionLedger.Json.Value
import SessionLedger.Text.Quoted

/-!
# Mismatches between a value and its type

What can be wrong with a JSON value that should be read as something else, and how each fault is
worded. A fault names what was found and what was expected there.

## Main definitions

* `Json.Found`, `Json.Expected` — the two sides of a fault, with their wording
* `Json.IntRange` — the ranges of integers that types have
* `Json.Mismatch`, `Json.Mismatch.message` — the faults
-/

namespace SessionLedger

namespace Json

/-- What stood where something else was expected. -/
inductive Found where
  | null
  | bool (value : Bool)
  | int (value : Int)
  | float (value : Float)
  | str (value : String)
  | sequence
  | map
deriving DecidableEq

/-- What a value is, for a fault report. -/
def found : Json → Found
  | .null => .null
  | .bool b => .bool b
  | .int n => .int n
  | .float x => .float x
  | .str s => .str s
  | .arr _ => .sequence
  | .obj _ => .map

/-- Doubles are written positionally from `10 ^ -5` to below `10 ^ 16`, and with a signed exponent
elsewhere. -/
def floatLayout : Float64.Layout := ⟨-5, 15⟩

/-- The wording of what was found. -/
def Found.phrase : Found → String
  | null => "null"
  | bool b => "boolean `" ++ (if b then "true" else "false") ++ "`"
  | int n => "integer `" ++ toString n ++ "`"
  | float x => "floating point `" ++ Float64.render floatLayout x ++ "`"
  | str s => "string " ++ Text.quoted s
  | sequence => "sequence"
  | map => "map"

/-- A range of integers with its name. -/
structure IntRange where
  name : String
  low : Int
  high : Int
deriving DecidableEq, Repr

/-- One byte, unsigned. -/
def IntRange.u8 : IntRange := ⟨"u8", 0, 255⟩

/-- Four bytes, unsigned. -/
def IntRange.u32 : IntRange := ⟨"u32", 0, 4294967295⟩

/-- Eight bytes, unsigned. -/
def IntRange.u64 : IntRange := ⟨"u64", 0, 18446744073709551615⟩

/-- Eight bytes, signed. -/
def IntRange.i64 : IntRange := ⟨"i64", -9223372036854775808, 9223372036854775807⟩

/-- A count of things in memory, as wide as `u64`. -/
def IntRange.usize : IntRange := ⟨"usize", 0, 18446744073709551615⟩

/-- What was expected. -/
inductive Expected where
  | string
  | boolean
  | sequence
  | map
  | int (range : IntRange)
  | record (name : String)
  | elements (name : String) (count : Nat)
  | fewerElements
  | unit
  | stringOrMap
  | singleKey
  | instant
deriving DecidableEq

/-- The wording of what was expected. -/
def Expected.phrase : Expected → String
  | string => "a string"
  | boolean => "a boolean"
  | sequence => "a sequence"
  | map => "a map"
  | int range => range.name
  | record name => "struct " ++ name
  | elements name count =>
    "struct " ++ name ++ " with " ++ toString count ++
      (if count = 1 then " element" else " elements")
  | fewerElements => "fewer elements in array"
  | unit => "unit"
  | stringOrMap => "string or map"
  | singleKey => "map with a single key"
  | instant => "an RFC 3339 formatted date and time string"

/-- What can be wrong with a value. -/
inductive Mismatch where
  /-- A value of another kind. -/
  | invalidType (found : Found) (expected : Expected)
  /-- A value of the right kind that is not admitted. -/
  | invalidValue (found : Found) (expected : Expected)
  /-- An array with too few or too many items. -/
  | invalidLength (length : Nat) (expected : Expected)
  /-- A record without one of its fields. -/
  | missingField (name : String)
  /-- A record with a field given twice. -/
  | duplicateField (name : String)
  /-- A name outside a list of names. -/
  | unknownVariant (name : String) (known : List String)
  /-- A text that its reader refused, with the reader's reason. -/
  | unreadable (reason : String)
deriving DecidableEq

/-- Text between back quotes. -/
def ticked (s : String) : String := "`" ++ s ++ "`"

/-- The wording of a fault. -/
def Mismatch.message : Mismatch → String
  | invalidType found expected =>
    "invalid type: " ++ found.phrase ++ ", expected " ++ expected.phrase
  | invalidValue found expected =>
    "invalid value: " ++ found.phrase ++ ", expected " ++ expected.phrase
  | invalidLength length expected =>
    "invalid length " ++ toString length ++ ", expected " ++ expected.phrase
  | missingField name => "missing field " ++ ticked name
  | duplicateField name => "duplicate field " ++ ticked name
  | unknownVariant name known =>
    "unknown variant " ++ ticked name ++ ", expected one of " ++
      ", ".intercalate (known.map ticked)
  | unreadable reason => reason

end Json

end SessionLedger
