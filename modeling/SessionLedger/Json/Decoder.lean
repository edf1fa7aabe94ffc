import SessionLedger.Json.Mismatch
import SessionLedger.Instant.Text

/-!
# Reading JSON values as other types

A decoder reads a JSON value as a value of another type, or says what does not match. Records are
described by their fields and read by filling in a draft: from an object, whose members are taken
in the order in which they stand, and from an array, whose items are the fields in the order of
their declaration. Members that the record does not have are ignored.

## Main definitions

* `Json.Decoder` and the decoders of simple types
* `Json.Field`, `Json.Record` — the description of a record
* `Json.Record.decode` — its decoder
-/

namespace SessionLedger

namespace Json

/-- A function that reads a value as another type. -/
abbrev Decoder (α : Type) := Json → Except Mismatch α

namespace Decoder

/-! ### Simple types -/

/-- Any value, as it is. -/
def any : Decoder Json := .ok

/-- A string. -/
def string : Decoder String
  | .str s => .ok s
  | j => .error (.invalidType j.found .string)

/-- A truth value. -/
def bool : Decoder Bool
  | .bool b => .ok b
  | j => .error (.invalidType j.found .boolean)

/-- An integer in a range. -/
def int (range : IntRange) : Decoder Int
  | .int n =>
    if range.low ≤ n ∧ n ≤ range.high then .ok n else .error (.invalidValue (.int n) (.int range))
  | j => .error (.invalidType j.found (.int range))

/-- An unsigned integer of eight bits. -/
def byte : Decoder UInt8 := fun j => return UInt8.ofNat (← int .u8 j).toNat

/-- An unsigned integer of 32 bits. -/
def word32 : Decoder UInt32 := fun j => return UInt32.ofNat (← int .u32 j).toNat

/-- An unsigned integer of 64 bits. -/
def word64 : Decoder UInt64 := fun j => return UInt64.ofNat (← int .u64 j).toNat

/-- A count, an unsigned integer of 64 bits. -/
def count : Decoder UInt64 := fun j => return UInt64.ofNat (← int .usize j).toNat

/-- A signed integer of 64 bits. -/
def signed64 : Decoder Int64 := fun j => return Int64.ofInt (← int .i64 j)

/-- An instant, given as text. -/
def instant : Decoder Instant
  | .str s =>
    match Instant.read s with
    | .ok t => .ok t
    | .error fault => .error (.unreadable fault.message)
  | j => .error (.invalidType j.found .instant)

/-! ### Containers -/

/-- `null`, or what another decoder reads. -/
def optional (item : Decoder α) : Decoder (Option α)
  | .null => .ok none
  | j => some <$> item j

/-- A list of what another decoder reads. -/
def list (item : Decoder α) : Decoder (List α)
  | .arr items => items.mapM item
  | j => .error (.invalidType j.found .sequence)

/-- A list of bytes. -/
def bytes : Decoder (List UInt8) := list byte

/-- A map from text to what another decoder reads. -/
def keyMap (item : Decoder α) : Decoder (KeyMap α)
  | .obj members => return KeyMap.ofList (← members.mapM fun (k, v) => return (k, ← item v))
  | j => .error (.invalidType j.found .map)

/-! ### Names -/

/-- One of a list of names. -/
def named (table : List (String × α)) (name : String) : Except Mismatch α :=
  match KeyMap.find? name table with
  | some a => .ok a
  | none => .error (.unknownVariant name (table.map (·.1)))

/-- One of a list of names, given as text or as the only key of an object, with the value `null`. -/
def variant (table : List (String × α)) : Decoder α
  | .str name => named table name
  | .obj [(name, value)] => do
    let a ← named table name
    match value with
    | .null => .ok a
    | j => .error (.invalidType j.found .unit)
  | .obj _ => .error (.invalidValue .map .singleKey)
  | j => .error (.invalidType j.found .stringOrMap)

end Decoder

/-! ### Records -/

/-- What happens when a field is not there. -/
inductive Presence where
  /-- It has to be there. -/
  | required
  /-- It may be left out of an object, but not out of an array. -/
  | optional
  /-- It may be left out; the draft has its default value. -/
  | defaulted
deriving DecidableEq, Repr

/-- A field of a record that is read by filling in a draft `ρ`. -/
structure Field (ρ : Type) where
  name : String
  presence : Presence
  fill : Json → ρ → Except Mismatch ρ

/-- A field that is read by a decoder and put into the draft by `set`. -/
def Field.of (name : String) (presence : Presence) (decoder : Decoder α) (set : α → ρ → ρ) :
    Field ρ :=
  ⟨name, presence, fun j draft => return set (← decoder j) draft⟩

/-- The description of a record: its name in fault reports, its fields in the order of their
declaration, and the draft to begin with. -/
structure Record (ρ : Type) where
  name : String
  fields : List (Field ρ)
  draft : ρ

namespace Record

/-- The field of the given name. -/
def field? (r : Record ρ) (name : String) : Option (Field ρ) :=
  r.fields.find? fun f => f.name == name

/-- Fills in the member's field, if the record has it. -/
def fillMember (r : Record ρ) (draft : ρ) (member : String × Json) : Except Mismatch ρ :=
  match r.field? member.1 with
  | some f => f.fill member.2 draft
  | none => .ok draft

/-- The draft is complete if no required field is missing from the names that were given. -/
def complete (r : Record ρ) (given : List String) (draft : ρ) : Except Mismatch ρ :=
  match r.fields.find? fun f => f.presence == .required && !given.contains f.name with
  | some f => .error (.missingField f.name)
  | none => .ok draft

/-- Reads a record from the members of an object. -/
def ofMembers (r : Record ρ) (members : List (String × Json)) : Except Mismatch ρ := do
  r.complete (members.map (·.1)) (← members.foldlM r.fillMember r.draft)

/-- The fault of an array that ends before the field at an index. -/
def tooShort (r : Record ρ) (index : Nat) : Mismatch :=
  .invalidLength index (.elements r.name r.fields.length)

/-- Reads the fields from the one at `index` on from the items of an array, of `length` items in
all. -/
def fillItems (r : Record ρ) (length : Nat) :
    (index : Nat) → List (Field ρ) → List Json → ρ → Except Mismatch ρ
  | _, [], [], draft => .ok draft
  | _, [], _ :: _, _ => .error (.invalidLength length .fewerElements)
  | index, f :: fields, item :: items, draft => do
    fillItems r length (index + 1) fields items (← f.fill item draft)
  | index, f :: fields, [], draft =>
    if f.presence = .defaulted then fillItems r length (index + 1) fields [] draft
    else .error (r.tooShort index)

/-- The decoder of a record. -/
def decode (r : Record ρ) : Decoder ρ
  | .obj members => r.ofMembers members
  | .arr items => r.fillItems items.length 0 r.fields items r.draft
  | j => .error (.invalidType j.found (.record r.name))

end Record

end Json

end SessionLedger
