import SessionLedger.Telemetry.Histogram

/-!
# Metrics

What the library counts while it works. Work is reported as activities, and each activity moves the
counters that it concerns.

## Main definitions

* `Activity` — what is reported
* `Metrics` — the counters
* `Metrics.note` — the counters after an activity
-/

namespace SessionLedger

/-- Something that is counted. -/
inductive Activity where
  /-- So many events were folded into a model. -/
  | folded (events : Nat)
  /-- So many events of unknown kinds were passed over. -/
  | unknownSkipped (events : Nat)
  /-- A fold met an event that does not decode. -/
  | malformed
  /-- So many events were appended. -/
  | appended (events : Nat)
  /-- An append was in conflict. -/
  | conflicted
  /-- The log could not be queried. -/
  | queryFailed
  /-- A command began. -/
  | started
  /-- A command came to its end, well or not. -/
  | finished (ok : Bool)
  /-- A command is tried again. -/
  | retried
deriving DecidableEq, Repr

/-- The counters. -/
structure Metrics where
  eventsFolded : Counter := {}
  unknownEventsSkipped : Counter := {}
  malformedEvents : Counter := {}
  eventsAppended : Counter := {}
  appendConflicts : Counter := {}
  queryErrors : Counter := {}
  commandsExecuted : Counter := {}
  commandRetries : Counter := {}
  commandsFailed : Counter := {}
  foldLatencyMs : Histogram := .new
  commandLatencyMs : Histogram := .new
  commandsInFlight : Gauge := {}
deriving DecidableEq, Repr

namespace Metrics

/-- The counters after an activity. -/
def note (m : Metrics) : Activity → Metrics
  | .folded n => { m with eventsFolded := m.eventsFolded.incBy (.ofNat n) }
  | .unknownSkipped n => { m with unknownEventsSkipped := m.unknownEventsSkipped.incBy (.ofNat n) }
  | .malformed => { m with malformedEvents := m.malformedEvents.inc }
  | .appended n => { m with eventsAppended := m.eventsAppended.incBy (.ofNat n) }
  | .conflicted => { m with appendConflicts := m.appendConflicts.inc }
  | .queryFailed => { m with queryErrors := m.queryErrors.inc }
  | .started => { m with commandsInFlight := m.commandsInFlight.inc }
  | .finished ok =>
    let m := { m with commandsInFlight := m.commandsInFlight.dec }
    if ok then { m with commandsExecuted := m.commandsExecuted.inc }
    else { m with commandsFailed := m.commandsFailed.inc }
  | .retried => { m with commandRetries := m.commandRetries.inc }

/-- A command that has come to its end is no longer in flight. -/
theorem commandsInFlight_note_finished (m : Metrics) (ok : Bool) :
    ((m.note .started).note (.finished ok)).commandsInFlight = m.commandsInFlight := by
  cases ok <;> simp [note, Gauge.inc, Gauge.dec]

end Metrics

end SessionLedger
