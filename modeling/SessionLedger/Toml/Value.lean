import SessionLedger.Toml.Moment

/-!
# Values and tables in TOML

A table has members in the order in which they first appear. It matters how a table came to be: a
header opens one once, and keys with points do not reach into it from outside; both build the tables
on their way. A table in braces is complete. Double headers open one table after the other under the
same key, and what follows goes into the latest.

## Main definitions

* `Toml.Value`, `Toml.Members` — the values, and the members of a table
* `Toml.Key` — a key with the tables on the way to it
* `Toml.assign`, `Toml.openTable`, `Toml.openElement` — what a line of a document does to the
  members of the whole
-/

namespace SessionLedger

namespace Toml

/-- How a table came to be. -/
inductive Origin where
  /-- It was on the way of a header to another table. -/
  | implied
  /-- A header opened it. -/
  | header
  /-- It was on the way of a key with points. -/
  | dotted
  /-- It was written in braces. -/
  | inline
deriving DecidableEq, Repr

/-- A value. -/
inductive Value where
  | text (value : String)
  | int (value : Int)
  | float (value : Float)
  | bool (value : Bool)
  | moment (value : Moment)
  | list (items : List Value)
  | table (origin : Origin) (members : List (String × Value))
  /-- The tables that double headers opened, the latest and the others before it. -/
  | tables (latest : List (String × Value)) (earlier : List (List (String × Value)))

/-- The members of a table. -/
abbrev Members := List (String × Value)

/-- A key with the tables on the way to it. -/
structure Key where
  way : List String
  name : String
deriving DecidableEq, Repr

/-- Changes the value under a name, which may be missing; `f` may refuse it. -/
def change (name : String) (f : Option Value → Option Value) : Members → Option Members
  | [] => (f none).map fun v => [(name, v)]
  | (n, v) :: rest =>
    if n = name then (f (some v)).map fun v => (n, v) :: rest
    else (change name f rest).map fun rest => (n, v) :: rest

/-- The members of the table that is on the way, and how to put them back. A header finds its way
through every table that is not complete; a key with points, which is `dotted`, not through a table
that has a header of its own either. Of several tables under one key the latest is on the way. -/
def onWay (dotted : Bool) : Option Value → Option (Members × (Members → Value))
  | none => some ([], .table (if dotted then .dotted else .implied))
  | some (.table .inline _) => none
  | some (.table .header ms) => if dotted then none else some (ms, .table .header)
  | some (.table origin ms) => some (ms, .table origin)
  | some (.tables latest earlier) => some (latest, fun ms => .tables ms earlier)
  | some _ => none

/-- Changes the members of the table at the end of a way. -/
def within (dotted : Bool) (f : Members → Option Members) : List String → Members → Option Members
  | [], ms => f ms
  | name :: way, ms =>
    change name (fun v => (onWay dotted v).bind fun (inner, back) =>
      (within dotted f way inner).map back) ms

/-- Puts a value where none is. -/
def fresh (v : Value) : Option Value → Option Value
  | none => some v
  | some _ => none

/-- Assigns a value to a key of a table. -/
def assign (key : Key) (v : Value) : Members → Option Members :=
  within true (change key.name (fresh v)) key.way

/-- Opens a table that was not opened before. -/
def opened : Option Value → Option Value
  | none => some (.table .header [])
  | some (.table .implied ms) => some (.table .header ms)
  | some _ => none

/-- Opens another table under a key for such tables. -/
def another : Option Value → Option Value
  | none => some (.tables [] [])
  | some (.tables latest earlier) => some (.tables [] (latest :: earlier))
  | some _ => none

/-- What a header does. -/
def openTable (key : Key) : Members → Option Members :=
  within false (change key.name opened) key.way

/-- What a double header does. -/
def openElement (key : Key) : Members → Option Members :=
  within false (change key.name another) key.way

end Toml

end SessionLedger
