import SessionLedger.Query
import SessionLedger.Session.Facts

/-!
# Session models

A model rebuilds one session from its events, for one round of loading, deciding and appending. It
remembers up to which position it has folded, so that repeated events change nothing, and that
position is what the next append is conditioned on. A model without an owner takes over the owner
of the first event that has one.

Events are delivered into a buffer and folded from there. A fold that fails leaves the facts as they
were; the buffer is empty afterwards in any case.

## Main definitions

* `Model` — identity, progress, buffer and facts
* `Model.step`, `Model.fold` — folding one event, and a list of events
* `Model.reduce`, `Model.load` — folding the buffer
* `Model.query` — the events that belong to the model
-/

namespace SessionLedger

/-- A session as far as its events have been folded. -/
structure Model where
  identity : Identity
  /-- The position of the last folded event, 0 before the first. -/
  position : UInt64 := 0
  /-- The time of the last folded event. -/
  changeDate : Option Instant := none
  /-- Delivered events that are not folded yet. -/
  buffer : List Event := []
  facts : Facts := {}
deriving DecidableEq

namespace Model

/-- The model of a session of which nothing has been folded. -/
def new (sessionId : String) (resourceOwner : Option String) : Model :=
  { identity := .session sessionId resourceOwner }

/-- The id of the session. -/
def sessionId (m : Model) : String := m.identity.id

/-! ### Folding -/

/-- Whether the event lies past what has been folded. -/
def isUnprocessed (m : Model) (e : Event) : Bool := decide (m.position < e.position)

/-- Who owns the session after an event: the owner so far, or else that of the event. -/
def adopt (i : Identity) (e : Event) : Identity :=
  if i.owner? = none ∧ e.resourceOwner ≠ "" then { i with resourceOwner := some e.resourceOwner }
  else i

/-- Moves on to an event. -/
def mark (m : Model) (e : Event) : Model :=
  { m with
    identity := adopt m.identity e
    position := e.position
    changeDate := some e.createdAt }

/-- Folds the event's facts, without moving on. -/
def apply (m : Model) (e : Event) : Except Error Model := do
  return { m with facts := ← m.facts.apply e }

/-- Folds one event, unless it was folded before. -/
def step (m : Model) (e : Event) : Except Error Model :=
  if m.isUnprocessed e then return (← m.apply e).mark e else .ok m

/-- Folds a list of events, in order. -/
def fold (m : Model) (events : List Event) : Except Error Model := events.foldlM step m

/-- How many events of unknown kinds a fold passes over, up to its end or its failure. -/
def unknownFolded (m : Model) : List Event → Nat
  | [] => 0
  | e :: events =>
    (if m.isUnprocessed e ∧ SessionEvent.Kind.ofName? e.kind = none then 1 else 0) +
      match m.step e with
      | .ok m' => m'.unknownFolded events
      | .error _ => 0

@[simp] theorem fold_nil (m : Model) : m.fold [] = .ok m := rfl

theorem fold_cons (m : Model) (e : Event) (events : List Event) :
    m.fold (e :: events) = (m.step e).bind fun m' => m'.fold events := rfl

theorem fold_append (m : Model) (before after : List Event) :
    m.fold (before ++ after) = (m.fold before).bind fun m' => m'.fold after := by
  simp only [fold, List.foldlM_append]
  rfl

/-! ### The buffer -/

/-- Delivers events into the buffer. -/
def deliver (m : Model) (events : List Event) : Model := { m with buffer := m.buffer ++ events }

/-- Takes the events out of the buffer. -/
def takeBuffer (m : Model) : List Event × Model := (m.buffer, { m with buffer := [] })

/-- Folds the buffer: the result, and the model afterwards. -/
def reduce (m : Model) : Except Error Unit × Model :=
  let (events, m) := m.takeBuffer
  match m.fold events with
  | .ok m' => (.ok (), m')
  | .error e => (.error e, m)

/-- Delivers events and folds the buffer. -/
def load (m : Model) (events : List Event) : Except Error Unit × Model :=
  (m.deliver events).reduce

/-- The model after a successful load. -/
def loaded (m : Model) (events : List Event) : Except Error Model :=
  match m.load events with
  | (.ok (), m') => .ok m'
  | (.error e, _) => .error e

theorem loaded_of_empty {m : Model} (h : m.buffer = []) (events : List Event) :
    m.loaded events = m.fold events := by
  have hm : ({ m with buffer := [] } : Model) = m := by cases m; simp_all
  simp only [loaded, load, reduce, deliver, takeBuffer, h, List.nil_append]
  have hm' : ({ m with buffer := ([] : List Event) } : Model) = m := hm
  simp only [hm']
  cases m.fold events <;> rfl

/-! ### What belongs to it -/

/-- The events that belong to the model: those of its session, of the kinds that a session folds,
and of its owner if it has one. -/
def query (m : Model) : Query where
  aggregateTypes := [sessionType]
  aggregateIds := [m.sessionId]
  resourceOwner := m.identity.owner?
  kinds := SessionEvent.Kind.all.map SessionEvent.Kind.name

end Model

end SessionLedger
