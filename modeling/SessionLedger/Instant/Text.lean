import SessionLedger.Instant.Basic
import SessionLedger.Text.Blank
import SessionLedger.Text.Digit

/-!
# Instants as text

Instants are written as RFC 3339 says, in UTC with `Z`, with the shortest of no, three, six or nine
decimal places that is exact, and with second 60 inside a leap second. A year outside 0 to 9999 has
a sign.

Reading is more lenient than writing. Blanks may stand before every number and every mark, months
and the like may have one digit, the date and the time may be separated by `T`, `t` or a space, any
offset from UTC is taken, and places after the ninth are dropped. The first part that cannot be read
decides what is wrong.

## Main definitions

* `Instant.write` — the written form
* `Instant.ReadFault` — what can be wrong with a text
* `Instant.read` — the lenient reader
-/

namespace SessionLedger

namespace Instant

open Text (paddedDigits)

/-! ### Writing -/

/-- A year; outside 0 to 9999 it has a sign. -/
def writeYear (year : Int) : List Char :=
  if 0 ≤ year ∧ year ≤ 9999 then paddedDigits 4 year.natAbs
  else (if year < 0 then '-' else '+') :: paddedDigits 4 year.natAbs

/-- The decimal places of a second, none if it is whole. -/
def writeFraction (nanos : Nat) : List Char :=
  if nanos = 0 then []
  else if nanos % 1000000 = 0 then '.' :: paddedDigits 3 (nanos / 1000000)
  else if nanos % 1000 = 0 then '.' :: paddedDigits 6 (nanos / 1000)
  else '.' :: paddedDigits 9 nanos

/-- The characters of the written form. -/
def writeChars (t : Instant) : List Char :=
  let date := Calendar.dateOf t.day
  let (shown, fraction) :=
    if nanosPerSecond ≤ t.nanos then (t.second % 60 + 1, t.nanos - nanosPerSecond)
    else (t.second % 60, t.nanos)
  writeYear date.year ++ '-' :: paddedDigits 2 date.month ++ '-' :: paddedDigits 2 date.day ++
    'T' :: paddedDigits 2 (t.second / 3600) ++ ':' :: paddedDigits 2 (t.second / 60 % 60) ++
    ':' :: paddedDigits 2 shown ++ writeFraction fraction ++ ['Z']

/-- The written form of an instant. -/
def write (t : Instant) : String := String.ofList t.writeChars

/-! ### Reading -/

/-- What can be wrong with a text that should be an instant. -/
inductive ReadFault where
  /-- The text ends too early. -/
  | tooShort
  /-- A character stands where it cannot. -/
  | unexpected
  /-- A number is outside its range. -/
  | outOfRange
  /-- Something follows the instant. -/
  | tooLong
  /-- The local time is one, but its instant is outside the range of instants. -/
  | impossible
deriving DecidableEq, Repr

/-- The wording of a fault. -/
def ReadFault.message : ReadFault → String
  | tooShort => "premature end of input"
  | unexpected => "input contains invalid characters"
  | outOfRange => "input is out of range"
  | tooLong => "trailing input"
  | impossible => "no possible date and time matching input"

/-- A step of the reader: what it read, and the rest of the text. -/
abbrev Reading (α : Type) := List Char → Except ReadFault (α × List Char)

/-- The greatest number that a run of digits may stand for. -/
def numberMax : Nat := 9223372036854775807

/-- Reads on in a run of at most `width` digits that began with `n`. -/
def digitsFrom (n : Nat) : (width : Nat) → Reading Nat
  | 0, cs => .ok (n, cs)
  | _ + 1, [] => .ok (n, [])
  | width + 1, c :: cs =>
    match Text.digit? c with
    | none => .ok (n, c :: cs)
    | some d => if n * 10 + d ≤ numberMax then digitsFrom (n * 10 + d) width cs
      else .error .outOfRange

/-- Reads a number of at least one digit and at most `width`. -/
def number (width : Nat) : Reading Nat
  | [] => .error .tooShort
  | c :: cs => if (Text.digit? c).isSome then digitsFrom 0 width (c :: cs) else .error .unexpected

/-- Reads a number that has to lie between `low` and `high`, after blanks. -/
def numberIn (low high : Nat) (cs : List Char) : Except ReadFault (Nat × List Char) := do
  let (n, rest) ← number 2 (Text.dropBlanks cs)
  if low ≤ n ∧ n ≤ high then .ok (n, rest) else .error .outOfRange

/-- Reads a year, after blanks: up to four digits, or any number of digits after a sign. -/
def year (cs : List Char) : Except ReadFault (Int × List Char) := do
  let (n, rest) ← match Text.dropBlanks cs with
    | '-' :: cs => do
      let (n, rest) ← number cs.length cs
      pure (-(n : Int), rest)
    | '+' :: cs => do
      let (n, rest) ← number cs.length cs
      pure ((n : Int), rest)
    | cs => do
      let (n, rest) ← number 4 cs
      pure ((n : Int), rest)
  if -2147483648 ≤ n ∧ n ≤ 2147483647 then .ok (n, rest) else .error .outOfRange

/-- Reads a mark, after blanks. -/
def mark (m : Char) (cs : List Char) : Except ReadFault (Unit × List Char) :=
  match Text.dropBlanks cs with
  | [] => .error .tooShort
  | c :: rest => if c = m then .ok ((), rest) else .error .unexpected

/-- Reads the mark between the date and the time. -/
def separator : Reading Unit
  | [] => .error .tooShort
  | c :: rest => if c = 'T' ∨ c = 't' ∨ c = ' ' then .ok ((), rest) else .error .unexpected

/-- Reads the decimal places of a second, if there are any, as nanoseconds. -/
def fraction : Reading Nat
  | '.' :: cs => do
    let (n, rest) ← number 9 cs
    let places := cs.length - rest.length
    .ok (n * Nat.pow 10 (9 - places), rest.dropWhile fun c => (Text.digit? c).isSome)
  | cs => .ok (0, cs)

/-- How many bytes a text takes. -/
def byteLength (cs : List Char) : Nat := (String.ofList cs).utf8ByteSize

/-- Reads exactly two digits. Two bytes have to be there before their kind matters. -/
def twoDigits (cs : List Char) : Except ReadFault ((Nat × Nat) × List Char) :=
  if byteLength cs < 2 then .error .tooShort
  else match cs with
    | a :: b :: rest =>
      match Text.digit? a, Text.digit? b with
      | some m, some n => .ok ((m, n), rest)
      | _, _ => .error .unexpected
    | _ => .error .unexpected

/-- Reads hours and minutes of an offset, as seconds. -/
def offsetDigits (cs : List Char) : Except ReadFault (Int × List Char) := do
  let ((h, h'), rest) ← twoDigits cs
  let rest := rest.dropWhile fun c => c == ':' || Text.isBlank c
  let ((m, m'), rest) ← twoDigits rest
  if m ≤ 5 then .ok (((h * 10 + h') * 3600 + (m * 10 + m') * 60 : Nat), rest)
  else .error .outOfRange

/-- Reads the offset from UTC, in seconds: `Z`, `UTC`, or a sign with hours and minutes. -/
def offset (cs : List Char) : Except ReadFault (Int × List Char) :=
  match cs with
  | [] => .error .tooShort
  | c :: rest =>
    if (cs.take 3).map Char.toUpper = ['U', 'T', 'C'] then .ok (0, cs.drop 3)
    else if c = 'Z' ∨ c = 'z' then .ok (0, rest)
    else if c = '+' then offsetDigits rest
    else if c = '-' ∨ c = '\u2212' then
      (offsetDigits rest).map fun (n, rest) => (-n, rest)
    else .error .unexpected

/-- The instant of a local time and an offset. -/
def ofLocal (date : Calendar.Date) (second nanos : Nat) (offset : Int) :
    Except ReadFault Instant :=
  let day := Calendar.dayNumber date
  if ¬ Calendar.Valid date ∨ day < firstDay ∨ lastDay < day then .error .outOfRange
  else if offset ≤ -86400 ∨ 86400 ≤ offset then .error .outOfRange
  else
    let total := (second : Int) - offset
    match ofParts? (day + total.fdiv 86400) (total.emod 86400).toNat nanos with
    | some t => .ok t
    | none => .error .impossible

/-- Reads an instant from the characters of a text. -/
def readChars (cs : List Char) : Except ReadFault Instant := do
  let (year, cs) ← year cs
  let ((), cs) ← mark '-' cs
  let (month, cs) ← numberIn 1 12 cs
  let ((), cs) ← mark '-' cs
  let (day, cs) ← numberIn 1 31 cs
  let ((), cs) ← separator cs
  let (hour, cs) ← numberIn 0 23 cs
  let ((), cs) ← mark ':' cs
  let (minute, cs) ← numberIn 0 59 cs
  let ((), cs) ← mark ':' cs
  let (second, cs) ← numberIn 0 60 cs
  let (nanos, cs) ← fraction cs
  let (offset, cs) ← offset (Text.dropBlanks cs)
  if Text.dropBlanks cs ≠ [] then throw .tooLong
  let (second, nanos) := if second = 60 then (59, nanos + nanosPerSecond) else (second, nanos)
  ofLocal ⟨year, month, day⟩ (hour * 3600 + minute * 60 + second) nanos offset

/-- Reads an instant. -/
def read (s : String) : Except ReadFault Instant := readChars s.toList

end Instant

end SessionLedger
