import SessionLedger.Text.Digit

/-!
# Dates and times in TOML

A moment is a date, a time of day, or both, and with both maybe an offset from UTC. It is kept as
the parts that were written, for nothing is computed from it; a fraction of a second is kept to nine
places. The written form has a `T` between date and time and no zeros at the end of the fraction.

## Main definitions

* `Toml.Moment` — dates and times
* `Toml.Moment.read` — the moment at the head of a text
* `Toml.Moment.write` — the written form
-/

namespace SessionLedger

namespace Toml

/-- A day of the calendar. -/
structure Date where
  year : Nat
  month : Nat
  day : Nat
deriving DecidableEq, Repr

/-- A time of day. -/
structure Time where
  hour : Nat
  minute : Nat
  second : Nat
  nanosecond : Nat
deriving DecidableEq, Repr

/-- A distance from UTC. -/
inductive Offset where
  /-- UTC itself, written as `Z`. -/
  | zulu
  /-- So many minutes ahead of UTC. -/
  | minutes (ahead : Int)
deriving DecidableEq, Repr

/-- A date, a time or both. -/
inductive Moment where
  | dateOnly (date : Date)
  | timeOnly (time : Time)
  | dateTime (date : Date) (time : Time) (offset : Option Offset)
deriving DecidableEq, Repr

namespace Moment

/-! ### Reading -/

/-- Reads a number of exactly `width` digits between `low` and `high`. -/
def number (width low high : Nat) (cs : List Char) : Option (Nat × List Char) :=
  let ds := cs.take width
  let n := Text.ofDigits ds
  if ds.length = width ∧ ds.all Char.isDigit ∧ low ≤ n ∧ n ≤ high then some (n, cs.drop width)
  else none

/-- Reads a mark. -/
def mark (m : Char) : List Char → Option (List Char)
  | [] => none
  | c :: rest => if c = m then some rest else none

/-- Reads a date. -/
def readDate (cs : List Char) : Option (Date × List Char) := do
  let (year, cs) ← number 4 0 9999 cs
  let (month, cs) ← number 2 1 12 (← mark '-' cs)
  let (day, cs) ← number 2 1 31 (← mark '-' cs)
  some (⟨year, month, day⟩, cs)

/-- Reads a fraction of a second, if there is one; places after the ninth are dropped. -/
def readFraction : List Char → Option (Nat × List Char)
  | '.' :: cs =>
    let (ds, rest) := Text.spanDigits cs
    let kept := ds.take 9
    if ds.isEmpty then none
    else some (Text.ofDigits (kept ++ List.replicate (9 - kept.length) '0'), rest)
  | cs => some (0, cs)

/-- Reads a time of day. -/
def readTime (cs : List Char) : Option (Time × List Char) := do
  let (hour, cs) ← number 2 0 23 cs
  let (minute, cs) ← number 2 0 59 (← mark ':' cs)
  let (second, cs) ← number 2 0 60 (← mark ':' cs)
  let (nanosecond, cs) ← readFraction cs
  some (⟨hour, minute, second, nanosecond⟩, cs)

/-- Reads the minutes of an offset from behind its sign on. -/
def readMinutes (cs : List Char) : Option (Nat × List Char) := do
  let (hour, cs) ← number 2 0 23 cs
  let (minute, cs) ← number 2 0 59 (← mark ':' cs)
  some (hour * 60 + minute, cs)

/-- Reads an offset, if there is one. -/
def readOffset : List Char → Option (Option Offset × List Char)
  | 'Z' :: rest | 'z' :: rest => some (some .zulu, rest)
  | '+' :: rest => (readMinutes rest).map fun (n, rest) => (some (.minutes n), rest)
  | '-' :: rest => (readMinutes rest).map fun (n, rest) => (some (.minutes (-n)), rest)
  | rest => some (none, rest)

/-- The rest of a text behind the mark between date and time. A blank is that mark only if a digit
follows. -/
def afterSeparator? : List Char → Option (List Char)
  | 'T' :: rest | 't' :: rest => some rest
  | ' ' :: c :: rest => if c.isDigit then some (c :: rest) else none
  | _ => none

/-- Reads what follows a date. -/
def readAfterDate (date : Date) (cs : List Char) : Option (Moment × List Char) :=
  match afterSeparator? cs with
  | none => some (.dateOnly date, cs)
  | some cs => do
    let (time, cs) ← readTime cs
    let (offset, cs) ← readOffset cs
    some (.dateTime date time offset, cs)

/-- Whether a text begins like a moment: with a year and a hyphen, or with an hour and a colon. -/
def begins : List Char → Bool
  | a :: b :: ':' :: _ => a.isDigit && b.isDigit
  | a :: b :: c :: d :: '-' :: _ => a.isDigit && b.isDigit && c.isDigit && d.isDigit
  | _ => false

/-- The moment at the head of a text, and the rest. -/
def read (cs : List Char) : Option (Moment × List Char) :=
  match readDate cs with
  | some (date, rest) => readAfterDate date rest
  | none => (readTime cs).map fun (time, rest) => (.timeOnly time, rest)

/-! ### Writing -/

open Text (paddedDigits)

/-- The written form of a date. -/
def writeDate (d : Date) : List Char :=
  paddedDigits 4 d.year ++ ['-'] ++ paddedDigits 2 d.month ++ ['-'] ++ paddedDigits 2 d.day

/-- The written form of nanoseconds: none for zero, else a point and the places up to the last that
is not zero. -/
def writeFraction (n : Nat) : List Char :=
  if n = 0 then [] else '.' :: ((paddedDigits 9 n).reverse.dropWhile (· == '0')).reverse

/-- The written form of a time of day. -/
def writeTime (t : Time) : List Char :=
  paddedDigits 2 t.hour ++ [':'] ++ paddedDigits 2 t.minute ++ [':'] ++
    paddedDigits 2 t.second ++ writeFraction t.nanosecond

/-- The written form of an offset. -/
def writeOffset : Offset → List Char
  | .zulu => ['Z']
  | .minutes n =>
    [if n < 0 then '-' else '+'] ++ paddedDigits 2 (n.natAbs / 60) ++ [':'] ++
      paddedDigits 2 (n.natAbs % 60)

/-- The written form of a moment. -/
def write : Moment → String
  | dateOnly d => String.ofList (writeDate d)
  | timeOnly t => String.ofList (writeTime t)
  | dateTime d t offset =>
    String.ofList (writeDate d ++ ['T'] ++ writeTime t ++ offset.elim [] writeOffset)

end Moment

end Toml

end SessionLedger
