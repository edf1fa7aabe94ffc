import SessionLedger.Event.Basic

/-!
# Queries

A query selects events by aggregate, owner, kind and position. A list of names that is empty does
not restrict; neither does a missing owner. The limit bounds how many events are handed out and
takes no part in selecting them.

## Main definitions

* `Query` — the type, with functions that narrow it
* `Query.selects` — whether an event is selected
* `Query.run` — the selected events of a log, in its order
-/

namespace SessionLedger

/-- Which events to hand out. -/
structure Query where
  aggregateTypes : List String := []
  aggregateIds : List String := []
  resourceOwner : Option String := none
  kinds : List String := []
  /-- Only events past this position. -/
  after : UInt64 := 0
  limit : Option UInt64 := none
deriving DecidableEq, Repr

namespace Query

/-! ### Narrowing -/

/-- Admits further aggregate types. -/
def ofTypes (q : Query) (names : List String) : Query :=
  { q with aggregateTypes := q.aggregateTypes ++ names }

/-- Admits further aggregate ids. -/
def ofIds (q : Query) (names : List String) : Query :=
  { q with aggregateIds := q.aggregateIds ++ names }

/-- Admits further kinds of event. -/
def ofKinds (q : Query) (names : List String) : Query := { q with kinds := q.kinds ++ names }

/-- Admits the events of one owner only, or of any if the name is missing or empty. -/
def ownedBy (q : Query) (owner : Option String) : Query :=
  { q with resourceOwner := owner.filter (· ≠ "") }

/-- Admits only events past a position. -/
def past (q : Query) (position : UInt64) : Query := { q with after := position }

/-- Hands out at most so many events. -/
def atMost (q : Query) (limit : UInt64) : Query := { q with limit := some limit }

/-! ### Selecting -/

/-- A name is admitted by a list of names that is empty or has it. -/
def admits (names : List String) (name : String) : Bool := names.isEmpty || names.contains name

/-- Whether the query selects an event. -/
def selects (q : Query) (e : Event) : Bool :=
  admits q.aggregateTypes e.aggregateType && admits q.aggregateIds e.aggregateId &&
    q.resourceOwner.all (· == e.resourceOwner) && admits q.kinds e.kind &&
    decide (q.after < e.position)

/-- The events of a log that the query hands out, in the order of the log. -/
def run (q : Query) (log : List Event) : List Event :=
  let selected := log.filter q.selects
  match q.limit with
  | some limit => selected.take limit.toNat
  | none => selected

theorem admits_iff {names : List String} {name : String} :
    admits names name = true ↔ names = [] ∨ name ∈ names := by
  simp [admits]

theorem selects_iff {q : Query} {e : Event} :
    q.selects e = true ↔
      (q.aggregateTypes = [] ∨ e.aggregateType ∈ q.aggregateTypes) ∧
      (q.aggregateIds = [] ∨ e.aggregateId ∈ q.aggregateIds) ∧
      (∀ owner ∈ q.resourceOwner, owner = e.resourceOwner) ∧
      (q.kinds = [] ∨ e.kind ∈ q.kinds) ∧ q.after < e.position := by
  cases h : q.resourceOwner <;> simp [selects, admits_iff, and_assoc, h]

theorem run_of_limit_none {q : Query} (h : q.limit = none) (log : List Event) :
    q.run log = log.filter q.selects := by
  simp [run, h]

/-! ### Format -/

/-- How a query is read. -/
def record : Json.Record Query where
  name := "SearchQuery"
  draft := {}
  fields := [
    .of "aggregate_types" .required (.list .string) fun v d => { d with aggregateTypes := v },
    .of "aggregate_ids" .required (.list .string) fun v d => { d with aggregateIds := v },
    .of "resource_owner" .optional (.optional .string) fun v d => { d with resourceOwner := v },
    .of "event_kinds" .required (.list .string) fun v d => { d with kinds := v },
    .of "position_after" .required .word64 fun v d => { d with after := v },
    .of "limit" .optional (.optional .count) fun v d => { d with limit := v }]

/-- Reads a query from a JSON value. -/
def ofJson : Json.Decoder Query := record.decode

/-- A list of names as JSON. -/
def namesToJson (names : List String) : Json := .arr (names.map .str)

/-- The written form. -/
def toJson (q : Query) : Json := .obj [
  ("aggregate_types", namesToJson q.aggregateTypes),
  ("aggregate_ids", namesToJson q.aggregateIds),
  ("resource_owner", q.resourceOwner.elim .null .str),
  ("event_kinds", namesToJson q.kinds),
  ("position_after", .int q.after.toNat),
  ("limit", q.limit.elim .null fun n => .int n.toNat)]

end Query

end SessionLedger
