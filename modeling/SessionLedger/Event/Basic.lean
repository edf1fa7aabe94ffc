import SessionLedger.Identity

/-!
# Events

An event says that something happened to an aggregate. Once it is in the log it has a position in
its stream and the time at which it was appended; until then it is pending. What the event is about
lies in its kind and its data, which the log does not look into.

## Main definitions

* `Event` — an event of the log
* `PendingEvent` — an event that is still to be appended
-/

namespace SessionLedger

/-- An event of the log. -/
structure Event where
  aggregateType : String
  aggregateId : String
  resourceOwner : String
  kind : String
  data : Json
  /-- The place in the stream, from 1 on. -/
  position : UInt64
  createdAt : Instant
  creator : String
deriving DecidableEq

/-- An event that is still to be appended. -/
structure PendingEvent where
  kind : String
  data : Json := .null
  creator : String := ""
deriving DecidableEq

namespace Event

/-- The stream of the event. -/
def key (e : Event) : StreamKey := ⟨e.aggregateType, e.aggregateId⟩

end Event

/-- The event that a pending one becomes at a place in a stream. -/
def PendingEvent.stored (p : PendingEvent) (key : StreamKey) (owner : String) (position : UInt64)
    (now : Instant) : Event where
  aggregateType := key.aggregateType
  aggregateId := key.id
  resourceOwner := owner
  kind := p.kind
  data := p.data
  position := position
  createdAt := now
  creator := p.creator

end SessionLedger
