import SessionLedger.Text.Alphanumeric
import SessionLedger.Text.Blank

/-!
# Files of environment variables

A `.env` file sets variables, one assignment to a line, that are not set yet. Values may be quoted,
with a backslash before what should stand for itself, may go on over several lines inside quotes,
and outside single quotes may refer to variables by `$`. Reading stops at the first line that cannot
be read.

## Main definitions

* `Dotenv.logicalLines` — the lines, several of them joined where quotes are open
* `Dotenv.extend` — the variables after a file was read
-/

namespace SessionLedger

namespace Dotenv

/-- Variables and their values; the first entry of a name counts. -/
abbrev Variables := List (String × String)

/-! ### Lines -/

/-- Where a reader of lines is. -/
inductive LineState where
  | complete
  | escaped
  | strong
  | strongEscaped
  | weak
  | weakEscaped
  | comment
  | blank
deriving DecidableEq, Repr

/-- Where the reader is after a character. -/
def LineState.after (c : Char) : LineState → LineState
  | escaped => complete
  | complete =>
    if Text.isBlank c && c != '\n' && c != '\r' then blank
    else if c = '\\' then escaped
    else if c = '"' then weak
    else if c = '\x27' then strong
    else complete
  | blank =>
    if c = '#' then comment
    else if c = '\\' then escaped
    else if c = '"' then weak
    else if c = '\x27' then strong
    else complete
  | weak => if c = '\\' then weakEscaped else if c = '"' then complete else weak
  | weakEscaped => weak
  | strong => if c = '\\' then strongEscaped else if c = '\x27' then complete else strong
  | strongEscaped => strong
  | comment => comment

/-- Where a comment begins in a line, by the state before it. -/
def commentStart : (index : Nat) → LineState → List Char → Nat
  | index, _, [] => index
  | index, s, c :: rest =>
    match s.after c with
    | .comment => index
    | s => commentStart (index + 1) s rest

/-- The text without the end of its line. -/
def withoutEnd (cs : List Char) : List Char :=
  match cs.reverse with
  | '\n' :: '\r' :: rest => rest.reverse
  | '\n' :: rest => rest.reverse
  | _ => cs

/-- The lines of a text, each with its end. -/
def physicalLines (cs : List Char) : List (List Char) :=
  let parts := cs.splitOn '\n'
  let ended := parts.dropLast.map (· ++ ['\n'])
  match parts.getLast? with
  | some [] | none => ended
  | some last => ended ++ [last]

/-- How many bytes a text takes. -/
def byteLength (cs : List Char) : Nat := (String.ofList cs).utf8ByteSize

/-- The characters at the head of a text that fit into so many bytes. -/
def takeBytes (bytes : Nat) : List Char → List Char
  | [] => []
  | c :: rest => if c.utf8Size ≤ bytes then c :: takeBytes (bytes - c.utf8Size) rest else []

/-- Joins lines while quotes are open: what was gathered of a line, where the reader is in it, and
the lines to come. An open quote at the end gives `none`. A comment cuts the whole down to the
length of what stands before it on its own line. -/
def join (gathered : List Char) (s : LineState) : List (List Char) → List (Option (List Char))
  | [] => if gathered.isEmpty then [] else [none]
  | l :: rest =>
    let text := gathered ++ l
    if (Text.dropBlanks text).head? = some '#' then some [] :: join [] .complete rest
    else
      match l.foldl (fun s c => s.after c) s with
      | .complete => some (withoutEnd text) :: join [] .complete rest
      | .comment =>
        let kept := byteLength (l.take (commentStart 0 s l))
        some (takeBytes kept text) :: join [] .complete rest
      | s => join text s rest

/-- The lines of a text, several of them joined where quotes are open. -/
def logicalLines (cs : List Char) : List (Option (List Char)) :=
  join [] .complete (physicalLines cs)

/-! ### Assignments -/

/-- The name at the head of a line. -/
def name (cs : List Char) : Option (String × List Char) :=
  match cs with
  | [] => none
  | c :: _ =>
    if c.isAlpha || c == '_' then
      let (n, rest) := cs.span fun c => c.isAlphanum || c == '_' || c == '.'
      some (String.ofList n, rest)
    else none

/-- How a reference to a variable is being read. -/
inductive Reference where
  | bare
  | braced
deriving DecidableEq, Repr

/-- A value in the course of being read: what is open, and the text so far, latest character
first. -/
structure ValueState where
  strong : Bool := false
  weak : Bool := false
  escaped : Bool := false
  ending : Bool := false
  reference : Option Reference := none
  referred : List Char := []
  out : List Char := []

/-- The value after the variable that was referred to. -/
def ValueState.resolve (lookup : String → String) (v : ValueState) : ValueState :=
  { v with
    out := (lookup (String.ofList v.referred.reverse)).toList.reverse ++ v.out
    referred := []
    reference := none }

/-- The value after a character, `none` if the character cannot stand there. -/
def ValueState.after (lookup : String → String) (v : ValueState) (c : Char) : Option ValueState :=
  if v.ending then
    if c = ' ' ∨ c = '\t' then some v else none
  else if v.escaped then
    if c = '\\' ∨ c = '\x27' ∨ c = '"' ∨ c = '$' ∨ c = ' ' then
      some { v with escaped := false, out := c :: v.out }
    else if c = 'n' then some { v with escaped := false, out := '\n' :: v.out }
    else none
  else if v.strong then
    some (if c = '\x27' then { v with strong := false } else { v with out := c :: v.out })
  else
    match v.reference with
    | some r =>
      if Text.isAlphanumeric c then some { v with referred := c :: v.referred }
      else
        match r with
        | .bare =>
          if c = '\x7b' ∧ v.referred = [] then some { v with reference := some .braced }
          else
            let v := v.resolve lookup
            some <|
              if c = '$' then { v with reference := some .bare } else { v with out := c :: v.out }
        | .braced =>
          some (if c = '\x7d' then v.resolve lookup else { v with referred := c :: v.referred })
    | none =>
      some <|
        if c = '$' then { v with reference := some .bare }
        else if v.weak then
          if c = '"' then { v with weak := false }
          else if c = '\\' then { v with escaped := true }
          else { v with out := c :: v.out }
        else if c = '\x27' then { v with strong := true }
        else if c = '"' then { v with weak := true }
        else if c = '\\' then { v with escaped := true }
        else if c = ' ' ∨ c = '\t' then { v with ending := true }
        else { v with out := c :: v.out }

/-- Reads a value; behind its end only a comment may stand. -/
def valueFrom (lookup : String → String) (v : ValueState) : List Char → Option String
  | [] =>
    if v.strong || v.weak || v.reference == some .braced then none
    else some (String.ofList (v.resolve lookup).out.reverse)
  | c :: rest =>
    if v.ending && c == '#' then valueFrom lookup v []
    else (v.after lookup c).bind fun v => valueFrom lookup v rest

/-- What reading a line gives: nothing, or a name and a value. -/
def assignment (lookup : String → String) (line : List Char) :
    Option (Option (String × String)) := do
  let cs := Text.dropBlanks (Text.dropBlanks line.reverse).reverse
  if cs.isEmpty || cs.head? == some '#' then return none
  let (n, rest) ← name cs
  let (n, rest) ← match n, Text.dropBlanks rest with
    | n, '=' :: rest => some (n, rest)
    | "export", rest => do
      let (n, rest) ← name rest
      match Text.dropBlanks rest with
      | '=' :: rest => some (n, rest)
      | _ => none
    | _, _ => none
  let rest := Text.dropBlanks rest
  if rest.isEmpty || rest.head? == some '#' then return some (n, "")
  let v ← valueFrom lookup {} rest
  return some (n, v)

/-- The value of a variable, if it is set. -/
def get? (vars : Variables) (n : String) : Option String := vars.lookup n

/-- The value of a variable that is referred to. The name is looked for at the head of the entries
`name=value` of the variables that are set, so that it may hold an equals sign itself. -/
def referred? (vars : Variables) (n : String) : Option String :=
  if n = "" then none
  else vars.findSome? fun (name, value) =>
    let entry := (name ++ "=" ++ value).toList
    let head := (n ++ "=").toList
    if head.isPrefixOf entry then some (String.ofList (entry.drop head.length)) else none

/-- Adds the assignments of lines to variables that are set; `read` has those that the file gave so
far. -/
def addLines (vars read : Variables) : List (Option (List Char)) → Variables
  | [] => vars
  | none :: _ => vars
  | some line :: rest =>
    let lookup (n : String) : String :=
      ((referred? vars n).orElse fun _ => get? read n).getD ""
    match assignment lookup line with
    | none => vars
    | some none => addLines vars read rest
    | some (some (n, v)) =>
      let vars' := if (get? vars n).isSome then vars else vars ++ [(n, v)]
      addLines vars' ((n, v) :: read) rest

/-- The text of a file, up to the first line that is not UTF-8. -/
def textOfBytes (bytes : ByteArray) : String :=
  let lines := (bytes.toList.splitOn 0x0a).map fun line => String.fromUTF8? ⟨line.toArray⟩
  let valid := (lines.takeWhile Option.isSome).filterMap id
  "\n".intercalate (if valid.length < lines.length then valid ++ [""] else valid)

/-- The variables after a file was read. Variables that are set stay as they are. -/
def extend (vars : Variables) (file : String) : Variables :=
  let cs := match file.toList with
    | '\ufeff' :: rest => rest
    | cs => cs
  addLines vars [] (logicalLines cs)

end Dotenv

end SessionLedger
