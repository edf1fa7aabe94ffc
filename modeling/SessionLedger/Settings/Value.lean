import SessionLedger.Float64.Shortest
import SessionLedger.Text.Digit
import SessionLedger.Toml.Value

/-!
# Values of settings

A setting comes from a file, where it has a type, or from an environment variable, where its type is
guessed from its text. Whoever uses a setting may read it as a text or as a truth value, whatever
its type, as far as that makes sense.

## Main definitions

* `SettingValue` — the values
* `SettingValue.ofToml?` — the value in a file
* `SettingValue.guess` — the value of a variable
* `SettingValue.text?`, `SettingValue.bool?` — reading a value as a text or as a truth value
-/

namespace SessionLedger

/-- The value of a setting. -/
inductive SettingValue where
  | bool (value : Bool)
  | int (value : Int)
  | float (value : Float)
  | text (value : String)
  /-- A list or a table. -/
  | compound
deriving DecidableEq

namespace SettingValue

/-- The value in a file; an empty table is none. A date or time is its text. -/
def ofToml? : Toml.Value → Option SettingValue
  | .text s => some (text s)
  | .int n => some (int n)
  | .float x => some (float x)
  | .bool b => some (bool b)
  | .moment t => some (text t.write)
  | .table _ [] => none
  | .list _ | .table _ _ | .tables _ _ => some compound

/-- The value of a variable: a truth value, an integer or a double if its text is one. -/
def guess (s : String) : SettingValue :=
  match s.map Char.toLower with
  | "true" => bool true
  | "false" => bool false
  | _ =>
    match Text.int? s.toList, Text.float? s.toList with
    | some n, _ => int n
    | none, some x => float x
    | none, none => text s

/-- A double without an exponent and without a point where there are no places. -/
def plainFloat (x : Float) : String :=
  let s := Float64.render ⟨-400, 400⟩ x
  if s.endsWith ".0" then String.ofList (s.toList.take (s.length - 2)) else s

/-- The value as a text. -/
def text? : SettingValue → Option String
  | bool b => some (if b then "true" else "false")
  | int n => some (toString n)
  | float x => some (plainFloat x)
  | text s => some s
  | compound => none

/-- The value as a truth value. -/
def bool? : SettingValue → Option Bool
  | bool b => some b
  | int n => some (n != 0)
  | float x => some (x != 0.0)
  | text s =>
    match s.map Char.toLower with
    | "1" | "true" | "on" | "yes" => some true
    | "0" | "false" | "off" | "no" => some false
    | _ => none
  | compound => none

end SettingValue

end SessionLedger
