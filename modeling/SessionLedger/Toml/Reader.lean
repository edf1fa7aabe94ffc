import SessionLedger.Toml.Quoted
import SessionLedger.Toml.Value

/-!
# Reading TOML

The keys and values of TOML, and the lines they stand in. Ends of lines are single line feeds here.

Loops over the parts of a whole run on a supply of steps that the length of the text covers; it
never runs out.

## Main definitions

* `Toml.Key.read` — a key
* `Toml.Value.read` — a value
* `Toml.Statement`, `Toml.Statement.readAll` — what the lines of a document say
-/

namespace SessionLedger

namespace Toml

/-! ### Blanks and marks -/

/-- The rest of a line from its next part on. -/
def next (cs : List Char) : List Char := cs.dropWhile isGap

/-- The rest of a text from its next part on, over the ends of lines and over comments. -/
def nextPart (inComment : Bool) : List Char → List Char
  | [] => []
  | c :: rest =>
    if inComment then nextPart (c != '\n') rest
    else if isGap c || c == '\n' then nextPart false rest
    else if c == '#' then nextPart true rest
    else c :: rest

/-- The rest of a text behind a mark, which may stand after blanks. -/
def behind (m : Char) (cs : List Char) : Option (List Char) :=
  match next cs with
  | [] => none
  | c :: rest => if c = m then some rest else none

/-- The rest of a text if nothing but a comment is left of its line. -/
def lineEnd (cs : List Char) : Option (List Char) :=
  match next cs with
  | [] => some []
  | c :: rest => if c = '\n' ∨ c = '#' then some (c :: rest) else none

/-! ### Keys -/

namespace Key

/-- The characters of names without quotes. -/
def isBare (c : Char) : Bool := c.isAlphanum || c == '_' || c == '-'

/-- Reads a name, after blanks. -/
def readName (cs : List Char) : Option (String × List Char) :=
  match next cs with
  | '"' :: rest => Quoted.line ('"' :: rest)
  | '\x27' :: rest => Quoted.line ('\x27' :: rest)
  | cs =>
    match cs.span isBare with
    | ([], _) => none
    | (name, rest) => some (String.ofList name, rest)

/-- Reads the names of a key, with points between them. -/
def readNames : (steps : Nat) → (way : List String) → Reader Key
  | 0, _, _ => none
  | steps + 1, way, cs => do
    let (name, rest) ← readName cs
    match next rest with
    | '.' :: rest => readNames steps (name :: way) rest
    | rest => some (⟨way.reverse, name⟩, rest)

/-- Reads a key. -/
def read : Reader Key := fun cs => readNames (cs.length + 1) [] cs

end Key

/-! ### Words -/

namespace Value

/-- The characters of values without quotes and brackets. -/
def isWord (c : Char) : Bool :=
  c.isAlphanum || c == '_' || c == '-' || c == '+' || c == '.'

/-- A number without its underscores, each of which has to stand between two digits; `after` tells
whether a digit stands before the text. -/
def ungrouped? (isDigit : Char → Bool) (after : Bool) : List Char → Option (List Char)
  | [] => some []
  | c :: rest =>
    if c = '_' then
      if after && (rest.head?.any isDigit) then ungrouped? isDigit false rest else none
    else (ungrouped? isDigit (isDigit c) rest).map (c :: ·)

/-- The integer of some digits in a base. -/
def basedInt? (base : Nat) (cs : List Char) : Option Value := do
  let ds ← ungrouped? (fun c => (Text.hexDigit? c).isSome) false cs
  if ds.isEmpty then none
  let n ← Text.natInBase? base ds
  (Text.int64? n).map .int

/-- Whether a decimal number has digits before its point, without leading zeros, and digits after
the point. -/
def isDecimal (cs : List Char) : Bool :=
  let (whole, rest) := Text.spanDigits (Text.sign cs).2
  let placed := match rest with
    | '.' :: rest => rest.head?.any Char.isDigit
    | _ => true
  match whole with
  | [] => false
  | '0' :: _ :: _ => false
  | _ => placed

/-- The number that a word stands for. -/
def number? : List Char → Option Value
  | '0' :: 'x' :: ds => basedInt? 16 ds
  | '0' :: 'o' :: ds => basedInt? 8 ds
  | '0' :: 'b' :: ds => basedInt? 2 ds
  | word => do
    let cs ← ungrouped? Char.isDigit false word
    if !isDecimal cs then none
    else if (Text.sign cs).2.all Char.isDigit then (Text.int? cs).map .int
    else (Text.float? cs).map .float

/-- The value that a word stands for. -/
def ofWord? (word : List Char) : Option Value :=
  match String.ofList (Text.sign word).2 with
  | "inf" | "nan" => (Text.float? word).map .float
  | _ =>
    match String.ofList word with
    | "true" => some (.bool true)
    | "false" => some (.bool false)
    | _ => number? word

/-! ### Values -/

/-- Reads the items of a list, from behind its opening bracket or a comma on. -/
def readItems (item : Reader Value) : (steps : Nat) → (done : List Value) → Reader (List Value)
  | 0, _, _ => none
  | steps + 1, done, cs =>
    match nextPart false cs with
    | ']' :: rest => some (done.reverse, rest)
    | cs => do
      let (v, rest) ← item cs
      match nextPart false rest with
      | ']' :: rest => some ((v :: done).reverse, rest)
      | ',' :: rest => readItems item steps (v :: done) rest
      | _ => none

/-- Reads the members of a table in braces, from its first member on, behind those in `before`. -/
def readMembers (item : Reader Value) : (steps : Nat) → (before : Members) → Reader Members
  | 0, _, _ => none
  | steps + 1, before, cs => do
    let (key, rest) ← Key.read cs
    let (v, rest) ← item (next (← behind '=' rest))
    let members ← assign key v before
    match next rest with
    | '\x7d' :: rest => some (members, rest)
    | ',' :: rest => readMembers item steps members rest
    | _ => none

/-- Reads a table in braces, from behind its opening brace on. -/
def readTable (item : Reader Value) (steps : Nat) : Reader Members := fun cs =>
  match next cs with
  | '\x7d' :: rest => some ([], rest)
  | cs => readMembers item steps [] cs

/-- Reads a value that is neither a list nor a table. -/
def readScalar (cs : List Char) : Option (Value × List Char) :=
  if cs.head? == some '"' || cs.head? == some '\x27' then
    (Quoted.read cs).map fun (s, rest) => (.text s, rest)
  else if Moment.begins cs then (Moment.read cs).map fun (t, rest) => (.moment t, rest)
  else
    let (word, rest) := cs.span isWord
    (ofWord? word).map fun v => (v, rest)

/-- Reads a value, with lists and tables nested up to a depth. -/
def readNested (steps : Nat) : (depth : Nat) → Reader Value
  | 0, _ => none
  | depth + 1, cs =>
    match cs with
    | '[' :: rest =>
      (readItems (readNested steps depth) steps [] rest).map fun (vs, rest) => (.list vs, rest)
    | '\x7b' :: rest =>
      (readTable (readNested steps depth) steps rest).map
        fun (ms, rest) => (.table .inline ms, rest)
    | cs => readScalar cs

/-- Reads a value. -/
def read : Reader Value := fun cs => readNested (cs.length + 1) (cs.length + 1) cs

end Value

/-! ### Lines -/

/-- What a line of a document says. -/
inductive Statement where
  | assignment (key : Key) (value : Value)
  | header (key : Key)
  | element (key : Key)

namespace Statement

/-- Reads a line, and of its last value also the lines that the value goes on over. -/
def read : Reader Statement
  | '[' :: '[' :: rest => do
    let (key, rest) ← Key.read rest
    match next rest with
    | ']' :: ']' :: rest => some (.element key, rest)
    | _ => none
  | '[' :: rest => do
    let (key, rest) ← Key.read rest
    some (.header key, ← behind ']' rest)
  | cs => do
    let (key, rest) ← Key.read cs
    let (v, rest) ← Value.read (next (← behind '=' rest))
    some (.assignment key v, rest)

/-- What the lines of a text say, behind those in `done`. -/
def readLines : (steps : Nat) → (done : List Statement) → List Char → Option (List Statement)
  | 0, _, _ => none
  | steps + 1, done, cs =>
    match nextPart false cs with
    | [] => some done.reverse
    | cs => do
      let (s, rest) ← read cs
      readLines steps (s :: done) (← lineEnd rest)

/-- What the lines of a text say. -/
def readAll (cs : List Char) : Option (List Statement) := readLines (cs.length + 1) [] cs

end Statement

end Toml

end SessionLedger
