import SessionLedger.Store.Condition

/-!
# The event store

The log of all events, in the order in which they were appended, with an index of its streams: for
each the position of its last event and its owner. An append to a stream is admitted if the stream
does not belong to somebody else and the writer's condition holds; its events get the positions
that follow, the owner of the stream and the time of the append. An append of no events still
enters the stream into the index, with the owner on whose behalf it was made. Positions have 64
bits; an append that would need a position past the last one is broken off before it has changed
anything.

## Main definitions

* `Store` — log and index
* `Store.ofEvents` — the store of an exported log
* `Store.place` — the events of an append at their positions
* `Store.push` — a conditional append
* `Store.filter`, `Store.latest`, `Store.aggregates` — what can be asked

## Main results

* `Store.push_log` — an append extends the log at its end by exactly its events
* `Store.latest_setHead` — what the index answers after a change
-/

namespace SessionLedger

/-- What the index knows about a stream. -/
structure Head where
  /-- The position of the last event, 0 before the first. -/
  position : UInt64
  /-- Whom the stream belongs to, empty if to nobody. -/
  owner : String
deriving DecidableEq, Repr

/-- The log, and the index of its streams. -/
structure Store where
  log : List Event := []
  heads : List (StreamKey × Head) := []
deriving DecidableEq

namespace Store

/-- The store without events. -/
def empty : Store := {}

/-! ### The index -/

/-- Looks a stream up. -/
def head? (s : Store) (key : StreamKey) : Option Head := s.heads.lookup key

/-- The index with a new entry for a stream. -/
def setHead (heads : List (StreamKey × Head)) (key : StreamKey) (head : Head) :
    List (StreamKey × Head) :=
  (key, head) :: heads.filter fun entry => entry.1 != key

theorem lookup_filter_ne {key key' : StreamKey} (h : key' ≠ key) (heads : List (StreamKey × Head)) :
    (heads.filter fun entry => entry.1 != key).lookup key' = heads.lookup key' := by
  induction heads with
  | nil => rfl
  | cons entry rest ih =>
    obtain ⟨k, head⟩ := entry
    by_cases hk : k = key
    · have hne : (key' == k) = false := by simpa [hk] using h
      rw [List.filter_cons_of_neg (by simpa using hk), List.lookup_cons, hne]
      exact ih
    · rw [List.filter_cons_of_pos (by simpa using hk), List.lookup_cons, List.lookup_cons, ih]

theorem lookup_setHead (heads : List (StreamKey × Head)) (key key' : StreamKey) (head : Head) :
    (setHead heads key head).lookup key' = if key' = key then some head else heads.lookup key' := by
  by_cases h : key' = key
  · subst h; simp [setHead]
  · have hb : (key' == key) = false := by simpa using h
    rw [if_neg h, setHead, List.lookup_cons, hb]
    exact lookup_filter_ne h heads

/-! ### Questions -/

/-- How many events there are. -/
def size (s : Store) : Nat := s.log.length

/-- The events of one stream, oldest first. -/
def stream (s : Store) (key : StreamKey) : List Event := s.log.filter fun e => e.key == key

/-- The events that a query hands out, oldest first. -/
def filter (s : Store) (q : Query) : List Event := q.run s.log

/-- The position of the last event of a stream, 0 before the first. -/
def latest (s : Store) (key : StreamKey) : UInt64 := ((s.head? key).map Head.position).getD 0

/-- The streams of a log, in the order of their first events. -/
def keysOf (log : List Event) : List StreamKey :=
  log.foldl (fun seen e => if e.key ∈ seen then seen else seen ++ [e.key]) []

/-- The streams that have events, in the order of their first events. -/
def aggregates (s : Store) : List StreamKey := keysOf s.log

/-! ### Importing a log -/

/-- The fault of an event that does not lie past the one before it in its stream. -/
def outOfOrder (e : Event) (position : UInt64) : Error :=
  .validation ("event " ++ e.kind ++ " of " ++ e.aggregateId ++ " at position " ++
    toString e.position ++ " follows position " ++ toString position)

/-- Adds an event of an exported log. The first event of a stream decides whom it belongs to. -/
def addExported (s : Store) (e : Event) : Except Error Store :=
  let head := (s.head? e.key).getD ⟨0, e.resourceOwner⟩
  if e.position ≤ head.position then .error (outOfOrder e head.position)
  else .ok ⟨s.log ++ [e], setHead s.heads e.key { head with position := e.position }⟩

/-- The store of an exported log. In each stream positions have to increase strictly, from 1 on. -/
def ofEvents (events : List Event) : Except Error Store := events.foldlM addExported empty

/-! ### Appending -/

/-- The events at the places that follow a position, if there are so many. -/
def place (key : StreamKey) (owner : String) (now : Instant) :
    (position : UInt64) → List PendingEvent → Option (List Event)
  | _, [] => some []
  | position, p :: pending =>
    if position.toNat + 1 < UInt64.size then
      (place key owner now (position + 1) pending).map
        (p.stored key owner (position + 1) now :: ·)
    else none

/-- The head of a stream as a writer finds it: a new stream would belong to the writer's owner. -/
def headFor (s : Store) (who : Identity) : Head :=
  (s.head? who.key).getD ⟨0, who.owner?.getD ""⟩

/-- Whether a stream with events belongs to somebody other than the writer's owner. A writer that
names no owner may write to any stream, and everybody to a stream that belongs to nobody. -/
def belongsToOther (head : Head) (who : Identity) : Bool :=
  decide (0 < head.position) && head.owner != "" && who.owner?.any (· != head.owner)

/-- Appends events to a stream: the events as they were stored and the store afterwards, or the
conflict. The store is left as it is if positions run out. -/
def push (s : Store) (now : Instant) (who : Identity) (condition : Condition)
    (pending : List PendingEvent) : Completion (List Event × Store) :=
  let head := s.headFor who
  if belongsToOther head who then .error (.conflict condition.position head.position)
  else
    match condition.check (s.stream who.key) with
    | .error e => .error e
    | .ok () =>
      match place who.key head.owner now head.position pending with
      | none => .overflow
      | some events =>
        let position := head.position + UInt64.ofNat pending.length
        .ok (events, ⟨s.log ++ events, setHead s.heads who.key { head with position := position }⟩)

/-! ### Laws -/

theorem stream_append (log more : List Event) (heads : List (StreamKey × Head)) (key : StreamKey) :
    (Store.mk (log ++ more) heads).stream key =
      log.filter (fun e => e.key == key) ++ more.filter fun e => e.key == key := by
  simp [stream]

/-- What the index answers after a change. -/
theorem latest_setHead (log : List Event) (heads : List (StreamKey × Head)) (key key' : StreamKey)
    (head : Head) :
    (Store.mk log (setHead heads key head)).latest key' =
      if key' = key then head.position else (Store.mk log heads).latest key' := by
  simp only [latest, head?, lookup_setHead]
  split <;> simp

section Place

variable {key : StreamKey} {owner : String} {now : Instant} {position : UInt64}
  {p : PendingEvent} {pending : List PendingEvent} {events : List Event}

theorem place_cons_eq_some_iff :
    place key owner now position (p :: pending) = some events ↔
      position.toNat + 1 < UInt64.size ∧ ∃ rest,
        place key owner now (position + 1) pending = some rest ∧
          events = p.stored key owner (position + 1) now :: rest := by
  rw [place]
  split
  · next hroom =>
    rw [Option.map_eq_some_iff]
    constructor
    · rintro ⟨rest, hrest, rfl⟩
      exact ⟨hroom, rest, hrest, rfl⟩
    · rintro ⟨-, rest, hrest, rfl⟩
      exact ⟨rest, hrest, rfl⟩
  · next hroom => simp [hroom]

theorem length_place (h : place key owner now position pending = some events) :
    events.length = pending.length := by
  induction pending generalizing position events with
  | nil => cases h; rfl
  | cons p pending ih =>
    obtain ⟨-, rest, hrest, rfl⟩ := place_cons_eq_some_iff.1 h
    rw [List.length_cons, List.length_cons, ih hrest]

theorem key_of_mem_place (h : place key owner now position pending = some events) {e : Event}
    (he : e ∈ events) : e.key = key ∧ e.resourceOwner = owner ∧ e.createdAt = now := by
  induction pending generalizing position events with
  | nil => cases h; cases he
  | cons p pending ih =>
    obtain ⟨-, rest, hrest, rfl⟩ := place_cons_eq_some_iff.1 h
    rcases List.mem_cons.1 he with rfl | he
    · exact ⟨rfl, rfl, rfl⟩
    · exact ih hrest he

end Place

/-- An append that is admitted extends the log at its end by exactly its events. -/
theorem push_log {s s' : Store} {now : Instant} {who : Identity} {condition : Condition}
    {pending : List PendingEvent} {events : List Event}
    (h : s.push now who condition pending = .ok (events, s')) :
    s'.log = s.log ++ events ∧ events.length = pending.length ∧ ∀ e ∈ events, e.key = who.key := by
  simp only [push] at h
  split at h
  · cases h
  · split at h
    · cases h
    · split at h
      · cases h
      · next hplace =>
        cases h
        exact ⟨rfl, length_place hplace, fun e he => (key_of_mem_place hplace he).1⟩

/-- An append that fails is in conflict. -/
theorem push_error {s : Store} {now : Instant} {who : Identity} {condition : Condition}
    {pending : List PendingEvent} {e : Error} (h : s.push now who condition pending = .error e) :
    ∃ actual, e = .conflict condition.position actual := by
  simp only [push] at h
  split at h
  · cases h; exact ⟨_, rfl⟩
  · split at h
    · next hc => cases h; exact ⟨_, (Condition.check_eq_error_iff.1 hc).2⟩
    · split at h <;> cases h

end Store

end SessionLedger
