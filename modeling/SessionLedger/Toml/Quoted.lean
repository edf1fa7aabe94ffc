import SessionLedger.Text.Digit

/-!
# Strings in TOML

A string stands between double quotes, where a backslash escapes, or between single quotes, where
nothing does. Between three quotes of either kind it may go on over several lines: an end of line
right behind the opening quotes is no part of it, and one or two quotes may stand before the closing
ones. There a backslash at the end of a line also swallows the blanks and line ends that follow.

## Main definitions

* `Toml.Quoted.line` — a string on one line
* `Toml.Quoted.read` — a string of either kind
-/

namespace SessionLedger

namespace Toml

/-- A step of the reader: what it read, and the rest of the text. -/
abbrev Reader (α : Type) := List Char → Option (α × List Char)

/-- The blanks within a line. -/
def isGap (c : Char) : Bool := c == ' ' || c == '\t'

namespace Quoted

/-- Whether a character may stand in a line of text: controls may not, but for the tab. -/
def isPlain (c : Char) : Bool := c == '\t' || (0x20 ≤ c.toNat && c.toNat != 0x7f)

/-! ### Escapes -/

/-- The character that a letter after a backslash stands for. -/
def named? : Char → Option Char
  | 'b' => some '\x08'
  | 't' => some '\t'
  | 'n' => some '\n'
  | 'f' => some '\x0c'
  | 'r' => some '\r'
  | '"' => some '"'
  | '\\' => some '\\'
  | _ => none

/-- Reads a character by the digits of its code point. -/
def codePoint (width : Nat) : Reader Char := fun cs =>
  let ds := cs.take width
  if ds.length < width then none
  else (Text.natInBase? 16 ds).bind fun n =>
    if n.isValidChar then some (Char.ofNat n, cs.drop width) else none

/-- Reads what follows a backslash. -/
def escape : Reader Char
  | 'u' :: rest => codePoint 4 rest
  | 'U' :: rest => codePoint 8 rest
  | c :: rest => (named? c).map fun c => (c, rest)
  | [] => none

/-! ### On one line -/

/-- Reads a string with escapes from behind its opening quote on. -/
def escaped : (steps : Nat) → (done : List Char) → Reader String
  | 0, _, _ => none
  | _ + 1, _, [] => none
  | _ + 1, done, '"' :: rest => some (String.ofList done.reverse, rest)
  | steps + 1, done, '\\' :: rest =>
    (escape rest).bind fun (c, rest) => escaped steps (c :: done) rest
  | steps + 1, done, c :: rest =>
    if isPlain c then escaped steps (c :: done) rest else none

/-- Reads a string without escapes from behind its opening quote on. -/
def literal (cs : List Char) : Option (String × List Char) :=
  match cs.span fun c => isPlain c && c != '\x27' with
  | (body, '\x27' :: rest) => some (String.ofList body, rest)
  | _ => none

/-- Reads a string on one line. -/
def line : Reader String
  | '"' :: rest => escaped (rest.length + 1) [] rest
  | '\x27' :: rest => literal rest
  | _ => none

/-! ### On several lines -/

/-- The string and the rest of the text, from behind the first three quotes of those that close it
on. -/
def closed (quote : Char) (done rest : List Char) : String × List Char :=
  let more := (rest.takeWhile (· == quote)).take 2
  (String.ofList (done.reverse ++ more), rest.drop more.length)

/-- Whether nothing but blanks is left of a line. -/
def lineEnds (cs : List Char) : Bool := (cs.dropWhile isGap).head? == some '\n'

/-- The rest of a text from its next character on that is neither blank nor the end of a line. -/
def dropLineEnds (cs : List Char) : List Char := cs.dropWhile fun c => isGap c || c == '\n'

/-- Reads a string of several lines with escapes, from its first line on. -/
def escapedLines : (steps : Nat) → (done : List Char) → Reader String
  | 0, _, _ => none
  | _ + 1, _, [] => none
  | _ + 1, done, '"' :: '"' :: '"' :: rest => some (closed '"' done rest)
  | steps + 1, done, '\\' :: rest =>
    if lineEnds rest then escapedLines steps done (dropLineEnds rest)
    else (escape rest).bind fun (c, rest) => escapedLines steps (c :: done) rest
  | steps + 1, done, c :: rest =>
    if isPlain c || c == '\n' then escapedLines steps (c :: done) rest else none

/-- Reads a string of several lines without escapes, from its first line on. -/
def literalLines (done : List Char) : List Char → Option (String × List Char)
  | [] => none
  | '\x27' :: '\x27' :: '\x27' :: rest => some (closed '\x27' done rest)
  | c :: rest => if isPlain c || c == '\n' then literalLines (c :: done) rest else none

/-- The rest of a text from its first line on, if an end of line stands before that. -/
def fromFirstLine : List Char → List Char
  | '\n' :: rest => rest
  | rest => rest

/-- Reads a string. -/
def read : Reader String
  | '"' :: '"' :: '"' :: rest => escapedLines (rest.length + 1) [] (fromFirstLine rest)
  | '\x27' :: '\x27' :: '\x27' :: rest => literalLines [] (fromFirstLine rest)
  | rest => line rest

end Quoted

end Toml

end SessionLedger
