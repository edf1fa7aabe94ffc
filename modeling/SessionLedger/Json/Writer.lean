import SessionLedger.Json.Mismatch

/-!
# Writing JSON text

The compact text of a value: no blanks, members in the order in which they stand, and in strings
only the quote, the backslash and the control characters below U+0020 escaped.

## Main definitions

* `Json.quote` — a string between quotes
* `Json.write` — the text of a value

## Main results

* `Json.write_arr`, `Json.write_obj` — the text of an array or an object is made of the texts of
  what is in it
-/

namespace SessionLedger

namespace Json

/-- A hexadecimal digit. -/
def hexDigit (n : Nat) : Char := Nat.digitChar n

/-- How a character is written in a string. -/
def escapeChar (c : Char) : List Char :=
  match c with
  | '"' => ['\\', '"']
  | '\\' => ['\\', '\\']
  | '\x08' => ['\\', 'b']
  | '\x0c' => ['\\', 'f']
  | '\n' => ['\\', 'n']
  | '\r' => ['\\', 'r']
  | '\t' => ['\\', 't']
  | c =>
    if c.toNat < 0x20 then
      ['\\', 'u', '0', '0', hexDigit (c.toNat / 16), hexDigit (c.toNat % 16)]
    else [c]

/-- A string between quotes. -/
def quote (s : String) : String :=
  (s.foldl (fun out c => (escapeChar c).foldl String.push out) "\"").push '"'

/-- The text of a double; what is no number is written `null`. -/
def writeFloat (x : Float) : String :=
  if x.isFinite then Float64.render floatLayout x else "null"

mutual

/-- Appends the text of a value. -/
def writeTo (out : String) : Json → String
  | null => out ++ "null"
  | bool b => out ++ (if b then "true" else "false")
  | int n => out ++ toString n
  | float x => out ++ writeFloat x
  | str s => out ++ quote s
  | arr [] => out ++ "[]"
  | arr (item :: items) => writeItems (writeTo (out.push '[') item) items
  | obj [] => out ++ "\x7b\x7d"
  | obj ((name, value) :: members) =>
    writeMembers (writeTo (out.push '\x7b' ++ quote name ++ ":") value) members

/-- Appends the items that follow the first, and the closing bracket. -/
def writeItems (out : String) : List Json → String
  | [] => out.push ']'
  | item :: items => writeItems (writeTo (out.push ',') item) items

/-- Appends the members that follow the first, and the closing brace. -/
def writeMembers (out : String) : List (String × Json) → String
  | [] => out.push '\x7d'
  | (name, value) :: members =>
    writeMembers (writeTo (out.push ',' ++ quote name ++ ":") value) members

end

/-- The text of a value. -/
def write (j : Json) : String := writeTo "" j

/-! ### Laws -/

theorem toList_foldl_push (cs : List Char) (out : String) :
    (cs.foldl String.push out).toList = out.toList ++ cs := by
  induction cs generalizing out with
  | nil => simp
  | cons c cs ih => rw [List.foldl_cons, ih]; simp

/-- The characters of a string between quotes. -/
theorem toList_quote (s : String) :
    (quote s).toList = '"' :: (s.toList.flatMap escapeChar ++ ['"']) := by
  have hbody : ∀ (cs : List Char) (out : String),
      (cs.foldl (fun out c => (escapeChar c).foldl String.push out) out).toList =
        out.toList ++ cs.flatMap escapeChar := by
    intro cs
    induction cs with
    | nil => simp
    | cons c cs ih =>
      intro out
      rw [List.foldl_cons, ih, toList_foldl_push]
      simp
  rw [quote, String.toList_push, String.foldl_eq_foldl_toList, hbody]
  rfl

/-- A string in which nothing is escaped. -/
theorem quote_of_plain {s : String} (h : (s.toList.all fun c => escapeChar c == [c]) = true) :
    quote s = "\"" ++ s ++ "\"" := by
  have hplain : ∀ c ∈ s.toList, escapeChar c = [c] := by simpa using h
  have hbody : s.toList.flatMap escapeChar = s.toList := by
    rw [List.flatMap_def, List.map_congr_left hplain, ← List.flatMap_def, List.flatMap_singleton']
  rw [← String.toList_inj, toList_quote, hbody]
  simp

theorem write_null : write .null = "null" := by simp [write, writeTo]

theorem write_bool (b : Bool) : write (.bool b) = if b then "true" else "false" := by
  simp [write, writeTo]

theorem write_int (n : Int) : write (.int n) = toString n := by simp [write, writeTo]

theorem write_str (s : String) : write (.str s) = quote s := by simp [write, writeTo]

mutual

/-- What has been written before does not matter. -/
theorem writeTo_eq_append (out : String) : (j : Json) → writeTo out j = out ++ writeTo "" j
  | null | bool _ | int _ | float _ | str _ | arr [] | obj [] => by simp [writeTo]
  | arr (item :: items) => by
    rw [writeTo, writeTo, writeItems_eq_append, writeTo_eq_append (out.push '['),
      writeItems_eq_append (writeTo ("".push '[') item), writeTo_eq_append ("".push '[')]
    simp [String.push_eq_append, String.append_assoc]
  | obj ((name, value) :: members) => by
    rw [writeTo, writeTo, writeMembers_eq_append, writeTo_eq_append (out.push '\x7b' ++ _ ++ ":"),
      writeMembers_eq_append (writeTo ("".push '\x7b' ++ _ ++ ":") value),
      writeTo_eq_append ("".push '\x7b' ++ _ ++ ":")]
    simp [String.push_eq_append, String.append_assoc]

theorem writeItems_eq_append (out : String) :
    (items : List Json) → writeItems out items = out ++ writeItems "" items
  | [] => by simp [writeItems, String.push_eq_append]
  | item :: items => by
    rw [writeItems, writeItems, writeItems_eq_append, writeTo_eq_append (out.push ','),
      writeItems_eq_append (writeTo ("".push ',') item), writeTo_eq_append ("".push ',')]
    simp [String.push_eq_append, String.append_assoc]

theorem writeMembers_eq_append (out : String) :
    (members : List (String × Json)) → writeMembers out members = out ++ writeMembers "" members
  | [] => by simp [writeMembers, String.push_eq_append]
  | (name, value) :: members => by
    rw [writeMembers, writeMembers, writeMembers_eq_append,
      writeTo_eq_append (out.push ',' ++ _ ++ ":"),
      writeMembers_eq_append (writeTo ("".push ',' ++ _ ++ ":") value),
      writeTo_eq_append ("".push ',' ++ _ ++ ":")]
    simp [String.push_eq_append, String.append_assoc]

end

theorem writeItems_eq_intercalate (item : Json) (items : List Json) :
    writeItems (write item) items = ",".intercalate ((item :: items).map write) ++ "]" := by
  induction items generalizing item with
  | nil => simp [writeItems, String.push_eq_append]
  | cons next items ih =>
    rw [writeItems, writeTo_eq_append, ← write, writeItems_eq_append, String.append_assoc,
      ← writeItems_eq_append, ih]
    simp [String.intercalate_cons_cons, String.push_eq_append, String.append_assoc]

/-- The text of a member of an object. -/
def writeMember (m : String × Json) : String := quote m.1 ++ ":" ++ write m.2

theorem writeMembers_eq_intercalate (m : String × Json) (members : List (String × Json)) :
    writeMembers (writeMember m) members =
      ",".intercalate ((m :: members).map writeMember) ++ "\x7d" := by
  induction members generalizing m with
  | nil => simp [writeMembers, String.push_eq_append]
  | cons next members ih =>
    have hnext : writeTo ((writeMember m).push ',' ++ quote next.1 ++ ":") next.2 =
        writeMember m ++ "," ++ writeMember next := by
      rw [writeTo_eq_append, ← write, writeMember.eq_def next, String.push_eq_append]
      simp [String.append_assoc]
    rw [writeMembers, hnext, writeMembers_eq_append, String.append_assoc, ← writeMembers_eq_append,
      ih]
    simp [String.intercalate_cons_cons, String.append_assoc]

/-- The text of an array. -/
theorem write_arr (items : List Json) :
    write (.arr items) = "[" ++ ",".intercalate (items.map write) ++ "]" := by
  cases items with
  | nil => rfl
  | cons item items =>
    rw [write, writeTo, writeTo_eq_append, ← write, writeItems_eq_append, String.append_assoc,
      ← writeItems_eq_append, writeItems_eq_intercalate]
    exact (String.append_assoc ..).symm

/-- The text of an object. -/
theorem write_obj (members : List (String × Json)) :
    write (.obj members) = "\x7b" ++ ",".intercalate (members.map writeMember) ++ "\x7d" := by
  cases members with
  | nil => rfl
  | cons m members =>
    have hfirst : writeTo ("".push '\x7b' ++ quote m.1 ++ ":") m.2 = "\x7b" ++ writeMember m := by
      rw [writeTo_eq_append, ← write, writeMember, String.push_eq_append]
      simp [String.append_assoc]
    rw [write, writeTo, hfirst, writeMembers_eq_append, String.append_assoc,
      ← writeMembers_eq_append, writeMembers_eq_intercalate]
    exact (String.append_assoc ..).symm

end Json

end SessionLedger
