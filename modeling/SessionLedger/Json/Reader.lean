import SessionLedger.Json.Decoder
import SessionLedger.Json.Number
import SessionLedger.Text.Digit

/-!
# Reading JSON text

Values and records are read from text in one pass, and the first thing that is wrong decides the
fault: the text is malformed, or it ends too early, or a value in it does not match the type it is
read as. Containers may be nested up to a depth.

A value that nobody looks at is skipped with a looser rule: its nesting, the range of its numbers
and the pairing of its surrogates are not checked.

Loops over the members of a container run on a supply of steps that the length of the whole text
covers; it never runs out.

## Main definitions

* `Json.TextFault` — what can be wrong with a text
* `Json.Reader.value`, `Json.Reader.skipped` — a value of the text
* `Json.read` — the value of a whole text
* `Json.Record.read` — the record of a whole text
-/

namespace SessionLedger

namespace Json

/-- What can be wrong with a text. -/
inductive TextFault where
  /-- It is not well-formed. -/
  | malformed
  /-- It ends too early. -/
  | truncated
  /-- It is well-formed so far, but a value does not match its type. -/
  | mistyped (mismatch : Mismatch)
deriving DecidableEq

/-- A step of the reader: what it read, and the rest of the text. -/
abbrev Reader (α : Type) := List Char → Except TextFault (α × List Char)

namespace Reader

/-! ### Marks and words -/

/-- The blanks that may stand between the parts of a text. -/
def isGap (c : Char) : Bool := c == ' ' || c == '\n' || c == '\t' || c == '\r'

/-- The rest of a text from its next part on. -/
def next (cs : List Char) : List Char := cs.dropWhile isGap

/-- Reads a mark, after blanks. -/
def mark (m : Char) : Reader Unit := fun cs =>
  match next cs with
  | [] => .error .truncated
  | c :: rest => if c = m then .ok ((), rest) else .error .malformed

/-- Reads the letters of a word. -/
def word : List Char → Reader Unit
  | [], cs => .ok ((), cs)
  | _ :: _, [] => .error .truncated
  | w :: ws, c :: cs => if c = w then word ws cs else .error .malformed

/-! ### Strings -/

/-- Reads four hexadecimal digits. Four bytes have to be there before their kind matters. -/
def hex4 : Reader Nat
  | a :: b :: c :: d :: rest =>
    match Text.hexDigit? a, Text.hexDigit? b, Text.hexDigit? c, Text.hexDigit? d with
    | some a, some b, some c, some d => .ok (a * 4096 + b * 256 + c * 16 + d, rest)
    | _, _, _, _ => .error .malformed
  | cs => .error (if (String.ofList cs).utf8ByteSize < 4 then .truncated else .malformed)

/-- Reads the digits of an escaped code point. Outside the basic plane it takes a pair of
surrogates, and one of them alone is malformed. -/
def codePoint : Reader Char := fun cs => do
  let (n, rest) ← hex4 cs
  if 0xDC00 ≤ n ∧ n ≤ 0xDFFF then throw .malformed
  if n < 0xD800 ∨ 0xDBFF < n then return (Char.ofNat n, rest)
  match rest with
  | [] => .error .truncated
  | ['\\'] => .error .truncated
  | '\\' :: 'u' :: rest => do
    let (n', rest) ← hex4 rest
    if 0xDC00 ≤ n' ∧ n' ≤ 0xDFFF then
      .ok (Char.ofNat (0x10000 + (n - 0xD800) * 0x400 + (n' - 0xDC00)), rest)
    else .error .malformed
  | _ => .error .malformed

/-- The character that a letter after a backslash stands for. -/
def escaped? : Char → Option Char
  | '"' => some '"'
  | '\\' => some '\\'
  | '/' => some '/'
  | 'b' => some '\x08'
  | 'f' => some '\x0c'
  | 'n' => some '\n'
  | 'r' => some '\r'
  | 't' => some '\t'
  | _ => none

/-- Reads what follows a backslash. A text that is only skipped may hold any code unit. -/
def escape (skipping : Bool) : Reader Char
  | [] => .error .truncated
  | 'u' :: rest =>
    if skipping then (hex4 rest).map fun (_, rest) => ('u', rest) else codePoint rest
  | c :: rest =>
    match escaped? c with
    | some c => .ok (c, rest)
    | none => .error .malformed

/-- Reads a string from behind its opening quote on. -/
def characters (skipping : Bool) : (steps : Nat) → List Char → Reader String
  | 0, _, _ => .error .truncated
  | _ + 1, _, [] => .error .truncated
  | _ + 1, done, '"' :: rest => .ok (String.ofList done.reverse, rest)
  | steps + 1, done, '\\' :: rest => do
    let (c, rest) ← escape skipping rest
    characters skipping steps (c :: done) rest
  | steps + 1, done, c :: rest =>
    if c.toNat < 0x20 then .error .malformed else characters skipping steps (c :: done) rest

/-! ### Numbers -/

/-- The digits at the head of a text. -/
def digits (cs : List Char) : List Nat × List Char :=
  ((cs.takeWhile fun c => (Text.digit? c).isSome).filterMap Text.digit?,
    cs.dropWhile fun c => (Text.digit? c).isSome)

/-- The fault of a number that lacks a digit. A number that is only skipped is malformed even when
the text ends there. -/
def noDigit (skipping : Bool) (rest : List Char) : TextFault :=
  if rest.isEmpty && !skipping then .truncated else .malformed

/-- Reads at least one digit. -/
def someDigits (skipping : Bool) : Reader (List Nat) := fun cs =>
  match digits cs with
  | ([], rest) => .error (noDigit skipping rest)
  | (ds, rest) => .ok (ds, rest)

/-- Reads the digits before the point: no zero stands before another digit. -/
def wholeDigits (skipping : Bool) : Reader (List Nat) := fun cs => do
  let (ds, rest) ← someDigits skipping cs
  match ds with
  | 0 :: _ :: _ => .error .malformed
  | ds => .ok (ds, rest)

/-- Reads the sign of an exponent: whether it is negative. -/
def exponentSign : List Char → Bool × List Char
  | '+' :: rest => (false, rest)
  | '-' :: rest => (true, rest)
  | rest => (false, rest)

/-- Reads an exponent, if there is one. -/
def exponentPart (skipping : Bool) : Reader (Option (Bool × List Nat))
  | c :: rest =>
    if c = 'e' ∨ c = 'E' then do
      let (down, rest) := exponentSign rest
      let (ds, rest) ← someDigits skipping rest
      .ok (some (down, ds), rest)
    else .ok (none, c :: rest)
  | [] => .ok (none, [])

/-- Reads the point and the digits after it, if there is a point. -/
def placesPart (skipping : Bool) : Reader (Option (List Nat))
  | '.' :: rest => (someDigits skipping rest).map fun (ds, rest) => (some ds, rest)
  | rest => .ok (none, rest)

/-- Reads a number. -/
def number (skipping : Bool) : Reader Json := fun cs => do
  let (negative, cs) := match cs with
    | '-' :: rest => (true, rest)
    | cs => (false, cs)
  let (whole, cs) ← wholeDigits skipping cs
  let (places, cs) ← placesPart skipping cs
  let (exponent, cs) ← exponentPart skipping cs
  if skipping then return (.null, cs)
  match (Written.mk negative whole places exponent).value? with
  | some (.int n) => .ok (.int n, cs)
  | some (.float x) => .ok (.float x, cs)
  | none => .error .malformed

/-! ### Containers -/

/-- Reads the items of an array from its first item on. -/
def items (item : Reader α) : (steps : Nat) → List α → Reader (List α)
  | 0, _, _ => .error .truncated
  | steps + 1, done, cs => do
    let (a, rest) ← item cs
    match next rest with
    | [] => .error .truncated
    | ']' :: rest => .ok ((a :: done).reverse, rest)
    | ',' :: rest => items item steps (a :: done) rest
    | _ => .error .malformed

/-- Reads an array from behind its opening bracket on. -/
def array (item : Reader α) (steps : Nat) : Reader (List α) := fun cs =>
  match next cs with
  | ']' :: rest => .ok ([], rest)
  | cs => items item steps [] cs

/-- Reads the members of an object from its first member on, and gathers them up with `member`,
which reads the part of a member behind its name. -/
def members (skipping : Bool) (member : String → σ → Reader σ) :
    (steps : Nat) → σ → Reader σ
  | 0, _, _ => .error .truncated
  | steps + 1, state, cs => do
    let ((), rest) ← mark '"' cs
    let (name, rest) ← characters skipping (steps + 1) [] rest
    let (state, rest) ← member name state rest
    match next rest with
    | [] => .error .truncated
    | '\x7d' :: rest => .ok (state, rest)
    | ',' :: rest => members skipping member steps state rest
    | _ => .error .malformed

/-- Reads an object from behind its opening brace on. -/
def object (skipping : Bool) (member : String → σ → Reader σ) (steps : Nat) (state : σ) :
    Reader σ := fun cs =>
  match next cs with
  | '\x7d' :: rest => .ok (state, rest)
  | cs => members skipping member steps state cs

/-- Reads the value of a member and adds the member to those before it. -/
def memberOf (value : Reader Json) (name : String) (before : List (String × Json)) :
    Reader (List (String × Json)) := fun cs => do
  let ((), cs) ← mark ':' cs
  let (v, cs) ← value cs
  .ok ((name, v) :: before, cs)

/-! ### Values -/

/-- Reads a value that begins with the given character and is no container. -/
def scalar (skipping : Bool) (steps : Nat) (c : Char) (rest : List Char) :
    Except TextFault (Json × List Char) :=
  match c with
  | 'n' => (word ['u', 'l', 'l'] rest).map fun (_, rest) => (.null, rest)
  | 't' => (word ['r', 'u', 'e'] rest).map fun (_, rest) => (.bool true, rest)
  | 'f' => (word ['a', 'l', 's', 'e'] rest).map fun (_, rest) => (.bool false, rest)
  | '"' => (characters skipping steps [] rest).map fun (s, rest) => (.str s, rest)
  | c =>
    if c = '-' ∨ (Text.digit? c).isSome then number skipping (c :: rest) else .error .malformed

/-- Reads a value, with containers nested up to a depth. -/
def valueOf (skipping : Bool) (steps : Nat) : (depth : Nat) → Reader Json
  | depth, cs =>
    match next cs with
    | [] => .error .truncated
    | c :: rest =>
      if c = '[' then
        match depth with
        | 0 => .error .malformed
        | depth + 1 =>
          (array (valueOf skipping steps depth) steps rest).map fun (js, rest) => (.arr js, rest)
      else if c = '\x7b' then
        match depth with
        | 0 => .error .malformed
        | depth + 1 =>
          (object skipping (memberOf (valueOf skipping steps depth)) steps [] rest).map
            fun (ms, rest) => (ofMembers ms.reverse, rest)
      else scalar skipping steps c rest

/-- Reads a value, with containers nested up to a depth. -/
def value (steps depth : Nat) : Reader Json := valueOf false steps depth

/-- Reads past a value. -/
def skipped (steps : Nat) : Reader Unit := fun cs =>
  (valueOf true steps steps cs).map fun (_, rest) => ((), rest)

/-- Reads a value that should not be a container: of a container only the kind is found out. -/
def shallow (steps : Nat) : Reader Json := fun cs =>
  match next cs with
  | [] => .error .truncated
  | c :: rest =>
    if c = '[' then .ok (.arr [], rest)
    else if c = '\x7b' then .ok (.obj [], rest)
    else scalar false steps c rest

end Reader

/-- How deep containers may be nested in a text. -/
def maxDepth : Nat := 127

/-- What is read from the whole of a text, but for blanks at its end. -/
def whole (reader : (steps : Nat) → Reader α) (text : String) : Except TextFault α := do
  let cs := text.toList
  let (a, rest) ← reader (cs.length + 1) cs
  if (Reader.next rest).isEmpty then .ok a else .error .malformed

/-- The value of a text. -/
def read (text : String) : Except TextFault Json :=
  whole (fun steps => Reader.value steps maxDepth) text

/-! ### Records -/

namespace Record

/-- What is wrong with the type of a value, as a fault of the text. -/
def typed : Except Mismatch α → Except TextFault α
  | .ok a => .ok a
  | .error e => .error (.mistyped e)

/-- Reads the value of a field into a draft. Only the fields in `deep` take containers. -/
def readField (deep : List String) (steps : Nat) (f : Field ρ) (draft : ρ) : Reader ρ :=
  fun cs => do
  let (v, rest) ←
    if deep.contains f.name then Reader.value steps (maxDepth - 1) cs else Reader.shallow steps cs
  return (← typed (f.fill v draft), rest)

/-- Reads a member into a draft, with the names of the fields that were given before. A field that
is given again is a fault before its value is read; a member that is no field is skipped. -/
def readMember (r : Record ρ) (deep : List String) (steps : Nat) (name : String)
    (state : List String × ρ) : Reader (List String × ρ) := fun cs => do
  match r.field? name with
  | some f =>
    if state.1.contains name then throw (.mistyped (.duplicateField name))
    let ((), cs) ← Reader.mark ':' cs
    let (draft, cs) ← readField deep steps f state.2 cs
    .ok ((name :: state.1, draft), cs)
  | none =>
    let ((), cs) ← Reader.mark ':' cs
    let ((), cs) ← Reader.skipped steps cs
    .ok (state, cs)

/-- Reads the fields from the one at `index` on from the items of an array; `first` tells whether no
item stands before. -/
def readItems (r : Record ρ) (deep : List String) (steps : Nat) :
    (first : Bool) → (index : Nat) → List (Field ρ) → ρ → Reader ρ
  | _, _, [], draft, cs => do
    match Reader.next cs with
    | [] => .error .truncated
    | ']' :: rest => .ok (draft, rest)
    | _ => .error .malformed
  | first, index, f :: fields, draft, cs =>
    match Reader.next cs with
    | [] => .error .truncated
    | ']' :: _ =>
      if f.presence = .defaulted then
        readItems r deep steps first (index + 1) fields draft cs
      else .error (.mistyped (r.tooShort index))
    | c :: rest =>
      if first then do
        let (draft, cs) ← readField deep steps f draft cs
        readItems r deep steps false (index + 1) fields draft cs
      else if c = ',' then
        match Reader.next rest with
        | ']' :: _ => .error .malformed
        | _ => do
          let (draft, cs) ← readField deep steps f draft rest
          readItems r deep steps false (index + 1) fields draft cs
      else .error .malformed

/-- Reads a record. -/
def reader (r : Record ρ) (deep : List String) (steps : Nat) : Reader ρ := fun cs => do
  let (shape, rest) ← Reader.shallow steps cs
  match shape with
  | .obj _ => do
    let ((given, draft), rest) ←
      Reader.object false (r.readMember deep steps) steps ([], r.draft) rest
    return (← typed (r.complete given draft), rest)
  | .arr _ => r.readItems deep steps true 0 r.fields r.draft rest
  | j => .error (.mistyped (.invalidType j.found (.record r.name)))

/-- The record of a text, of whose fields only those in `deep` take containers. -/
def read (r : Record ρ) (deep : List String) (text : String) : Except TextFault ρ :=
  whole (r.reader deep) text

end Record

end Json

end SessionLedger
