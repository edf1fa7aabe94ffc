import SessionLedger.Event.Basic
import SessionLedger.Json.Reader

/-!
# The exported form of events

Events as JSON, as an exported log holds them. Data and creator may be left out, and stand then for
`null` and for no creator; data is kept as it is.

## Main definitions

* `Event.record`, `PendingEvent.record` — how events are read
* `Event.toJson`, `PendingEvent.toJson` — how they are written
* `Event.read` — an event from text
-/

namespace SessionLedger

namespace Event

/-- How an event is read. -/
def record : Json.Record Event where
  name := "Event"
  draft := ⟨"", "", "", "", .null, 0, .epoch, ""⟩
  fields := [
    .of "aggregate_type" .required .string fun v d => { d with aggregateType := v },
    .of "aggregate_id" .required .string fun v d => { d with aggregateId := v },
    .of "resource_owner" .required .string fun v d => { d with resourceOwner := v },
    .of "kind" .required .string fun v d => { d with kind := v },
    .of "data" .defaulted .any fun v d => { d with data := v },
    .of "position" .required .word64 fun v d => { d with position := v },
    .of "created_at" .required .instant fun v d => { d with createdAt := v },
    .of "creator" .defaulted .string fun v d => { d with creator := v }]

/-- Reads an event from a JSON value. -/
def ofJson : Json.Decoder Event := record.decode

/-- Reads an event from text. -/
def read (text : String) : Except Json.TextFault Event := record.read ["data"] text

/-- The exported form. -/
def toJson (e : Event) : Json := .obj [
  ("aggregate_type", .str e.aggregateType),
  ("aggregate_id", .str e.aggregateId),
  ("resource_owner", .str e.resourceOwner),
  ("kind", .str e.kind),
  ("data", e.data),
  ("position", .int e.position.toNat),
  ("created_at", .str e.createdAt.write),
  ("creator", .str e.creator)]

end Event

namespace PendingEvent

/-- How a pending event is read. -/
def record : Json.Record PendingEvent where
  name := "PendingEvent"
  draft := { kind := "" }
  fields := [
    .of "kind" .required .string fun v d => { d with kind := v },
    .of "data" .defaulted .any fun v d => { d with data := v },
    .of "creator" .defaulted .string fun v d => { d with creator := v }]

/-- Reads a pending event from a JSON value. -/
def ofJson : Json.Decoder PendingEvent := record.decode

/-- The exported form. -/
def toJson (p : PendingEvent) : Json := .obj [
  ("kind", .str p.kind),
  ("data", p.data),
  ("creator", .str p.creator)]

end PendingEvent

end SessionLedger
