import SessionLedger.Text.Digit

/-!
# Keys of settings

A key names a setting, or a part of one: behind the name, names after points and numbers in brackets
lead to the part. Names are made of ASCII letters, digits, spaces, hyphens and underscores. A key
that is not of this form is a name as a whole. Upper and lower case are the same.

## Main definitions

* `SettingKey` — what a key names
* `SettingKey.ofString` — the reading of a key
-/

namespace SessionLedger

/-- What a key names. -/
inductive SettingKey where
  | whole (name : String)
  /-- A part of a setting, which makes the setting a list or a table. -/
  | part (name : String)
deriving DecidableEq, Repr

namespace SettingKey

/-- The characters of names. -/
def isNameChar (c : Char) : Bool := c.isAlphanum || c == ' ' || c == '_' || c == '-'

/-- The rest of a text without its leading blanks. -/
def dropGaps (cs : List Char) : List Char := cs.dropWhile fun c => c == ' ' || c == '\t'

/-- The rest of a text behind a number and a closing bracket. -/
def behindIndex? (cs : List Char) : Option (List Char) :=
  let (sign, cs) := match dropGaps cs with
    | '-' :: rest => (['-'], rest)
    | rest => ([], rest)
  let (ds, rest) := Text.spanDigits cs
  match Text.int? (sign ++ ds), dropGaps rest with
  | some _, ']' :: rest => some rest
  | _, _ => none

/-- Whether a text leads to a part; it does so in less steps than it has characters. -/
def isWay : (steps : Nat) → List Char → Bool
  | _, [] => true
  | 0, _ => false
  | steps + 1, '.' :: rest =>
    let (name, rest) := rest.span isNameChar
    !name.isEmpty && isWay steps rest
  | steps + 1, '[' :: rest => (behindIndex? rest).any (isWay steps)
  | _, _ => false

/-- The reading of a key. -/
def ofString (key : String) : SettingKey :=
  let cs := key.toList.map Char.toLower
  match cs.span isNameChar with
  | ([], _) | (_, []) => whole (String.ofList cs)
  | (name, way) =>
    if isWay way.length way then part (String.ofList name) else whole (String.ofList cs)

end SettingKey

end SessionLedger
