import SessionLedger.Session.Model

/-!
# Append conditions

A writer appends on the condition that the last event its query selects in the stream is where it
saw it. Events that the query does not select never stand in the way.

## Main definitions

* `Condition` — a query and the position that its last event should have
* `Condition.of` — the condition that nothing a model folds was appended since it was loaded
* `Condition.observed`, `Condition.check` — where the last selected event is, and whether it is
  there
-/

namespace SessionLedger

/-- What has to hold of a stream for an append. -/
structure Condition where
  query : Query := {}
  position : UInt64
deriving DecidableEq, Repr

namespace Condition

/-- The condition on the last event of the whole stream. -/
def atPosition (position : UInt64) : Condition := { position := position }

/-- The condition on all that a model has folded. -/
def of (m : Model) : Condition := ⟨m.query, m.position⟩

/-- The greatest of some positions, 0 if there are none. -/
def greatest (positions : List UInt64) : UInt64 := positions.foldl max 0

/-- The greatest position among the events of a stream that the query selects, 0 without any. -/
def observed (c : Condition) (stream : List Event) : UInt64 :=
  greatest ((stream.filter c.query.selects).map (·.position))

/-- The condition holds, or is in conflict with the stream. -/
def check (c : Condition) (stream : List Event) : Except Error Unit :=
  let actual := c.observed stream
  if actual = c.position then .ok () else .error (.conflict c.position actual)

theorem check_eq_ok_iff {c : Condition} {stream : List Event} :
    c.check stream = .ok () ↔ c.observed stream = c.position := by
  simp only [check]
  split <;> simp_all

theorem check_eq_error_iff {c : Condition} {stream : List Event} {e : Error} :
    c.check stream = .error e ↔
      c.observed stream ≠ c.position ∧ e = .conflict c.position (c.observed stream) := by
  simp only [check]
  split <;> simp_all [eq_comm]

end Condition

end SessionLedger
