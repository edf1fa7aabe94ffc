import SessionLedger.Proofs.Ownership

/-!
# Working on a store

A store is asked for events, for positions and for its streams, and is given events to append; the
answer to one request may depend on all that went before. This module fixes what a sequence of such
operations is answered, and says what may be relied on in every store that such a sequence leads to:
the order inside each stream, and that an append does what it reports and nothing else.

## Main definitions

* `Operation`, `Answer` — what a store can be asked, and what it answers
* `Store.perform`, `Store.serve` — one operation, and a sequence of them
* `Store.Reached` — the store comes of a sequence of operations on the empty one
* `Store.Grows` — a store grew by an append, and in no other way

## Main results

* `Store.Sound.serve` — operations keep a store sound
* `Store.grows_of_push` — an append that is admitted makes its store grow by its events
* `Store.Reached.consistent` — what holds in every store that is reached
-/

namespace SessionLedger

/-- What a store can be asked. -/
inductive Operation where
  | filter (q : Query)
  | latest (who : Identity)
  | aggregates
  | push (now : Instant) (who : Identity) (condition : Condition) (pending : List PendingEvent)

/-- What a store answers. -/
inductive Answer where
  | events (events : List Event)
  | position (position : UInt64)
  | streams (keys : List StreamKey)
  | refused (e : Error)
  /-- There was no answer, the operation was broken off. -/
  | brokenOff
deriving DecidableEq

/-- What is in an event by the will of its writer. -/
def Event.content (e : Event) : PendingEvent := ⟨e.kind, e.data, e.creator⟩

namespace Store

/-! ### Operations -/

/-- One operation: the answer, and the store afterwards. -/
def perform (s : Store) : Operation → Answer × Store
  | .filter q => (.events (s.filter q), s)
  | .latest who => (.position (s.latest who.key), s)
  | .aggregates => (.streams s.aggregates, s)
  | .push now who condition pending =>
    match s.push now who condition pending with
    | .ok (appended, s') => (.events appended, s')
    | .error e => (.refused e, s)
    | .overflow => (.brokenOff, s)

/-- A sequence of operations: the answers, and the store at the end. -/
def serve (s : Store) : List Operation → List Answer × Store
  | [] => ([], s)
  | op :: ops =>
    ((s.perform op).1 :: ((s.perform op).2.serve ops).1, ((s.perform op).2.serve ops).2)

/-- The store comes of a sequence of operations on the empty one. -/
def Reached (s : Store) : Prop := ∃ ops, (Store.empty.serve ops).2 = s

variable {s s' : Store} {now : Instant} {who : Identity} {condition : Condition}
  {pending : List PendingEvent} {appended : List Event} {ops : List Operation}

@[simp] theorem serve_nil (s : Store) : s.serve [] = ([], s) := rfl

theorem serve_cons (s : Store) (op : Operation) (ops : List Operation) :
    s.serve (op :: ops) =
      ((s.perform op).1 :: ((s.perform op).2.serve ops).1, ((s.perform op).2.serve ops).2) := rfl

theorem perform_of_push (h : s.push now who condition pending = .ok (appended, s')) :
    s.perform (.push now who condition pending) = (.events appended, s') := by
  simp only [perform, h]

theorem perform_of_push_error {e : Error} (h : s.push now who condition pending = .error e) :
    s.perform (.push now who condition pending) = (.refused e, s) := by
  simp only [perform, h]

theorem perform_of_push_overflow (h : s.push now who condition pending = .overflow) :
    s.perform (.push now who condition pending) = (.brokenOff, s) := by
  simp only [perform, h]

/-- An operation leaves the store as it is, or is an append that is admitted. -/
theorem perform_cases (s : Store) (op : Operation) :
    (s.perform op).2 = s ∨ ∃ now who condition pending appended s',
      op = .push now who condition pending ∧
        s.push now who condition pending = .ok (appended, s') ∧ (s.perform op).2 = s' := by
  cases op with
  | filter | latest | aggregates => exact .inl rfl
  | push now who condition pending =>
    cases hpush : s.push now who condition pending with
    | error e => exact .inl (by rw [perform_of_push_error hpush])
    | overflow => exact .inl (by rw [perform_of_push_overflow hpush])
    | ok result =>
      exact .inr ⟨now, who, condition, pending, _, _, rfl, hpush, by rw [perform_of_push hpush]⟩

/-- What holds of a store and is kept by every append that is admitted holds after every sequence
of operations. -/
theorem serve_induction {P : Store → Prop} (hs : P s)
    (hpush : ∀ now who condition pending appended s s',
      .push now who condition pending ∈ ops → P s →
      s.push now who condition pending = .ok (appended, s') → P s') : P (s.serve ops).2 := by
  induction ops generalizing s with
  | nil => exact hs
  | cons op ops ih =>
    refine ih ?_ fun now who condition pending appended s s' hop =>
      hpush now who condition pending appended s s' (List.mem_cons_of_mem op hop)
    rcases s.perform_cases op with hsame | ⟨now, who, condition, pending, appended, s', rfl, h, hs'⟩
    · rwa [hsame]
    · rw [hs']
      exact hpush now who condition pending appended s s' List.mem_cons_self hs h

/-- Operations keep a store sound. -/
theorem Sound.serve (h : s.Sound) (ops : List Operation) : (s.serve ops).2.Sound :=
  serve_induction (P := Sound) h fun _ _ _ _ _ _ _ _ hs hpush => hs.push hpush

theorem Reached.sound (h : s.Reached) : s.Sound := by
  obtain ⟨ops, rfl⟩ := h
  exact Sound.empty.serve ops

/-! ### Appends -/

/-- A store grew by events that were given to it for one stream, and in no other way. -/
structure Grows (s : Store) (key : StreamKey) (pending : List PendingEvent) (appended : List Event)
    (s' : Store) : Prop where
  /-- The events are at the end of the log. -/
  log : s'.log = s.log ++ appended
  /-- They are those that were given, in that order. -/
  content : appended.map Event.content = pending
  key_eq : ∀ e ∈ appended, e.key = key
  /-- Other streams are where they were. -/
  others : ∀ other, other ≠ key →
    s'.stream other = s.stream other ∧ s'.latest other = s.latest other
  /-- A query that selects nothing of the stream is answered as before. -/
  unconcerned : ∀ q, (∀ e, e.key = key → q.selects e = false) → s'.filter q = s.filter q
  /-- A query without a limit is answered as before, and then with the new events it selects. -/
  unlimited : ∀ q, q.limit = none → s'.filter q = s.filter q ++ appended.filter q.selects

theorem map_content_place {key : StreamKey} {owner : String} {position : UInt64}
    (h : place key owner now position pending = some appended) :
    appended.map Event.content = pending := by
  induction pending generalizing position appended with
  | nil =>
    cases h
    rfl
  | cons p pending ih =>
    obtain ⟨-, rest, hrest, rfl⟩ := place_cons_eq_some_iff.mp h
    rw [List.map_cons, ih hrest]
    rfl

/-- An append that is admitted makes its store grow by its events. -/
theorem grows_of_push (h : s.push now who condition pending = .ok (appended, s')) :
    s.Grows who.key pending appended s' := by
  obtain ⟨hlog, -, hkey⟩ := push_log h
  refine ⟨hlog, ?_, hkey, fun other hother => ⟨?_, ?_⟩, fun q hq => ?_, fun q hq => ?_⟩
  · obtain ⟨-, -, hplace, -⟩ := push_eq_ok_iff.mp h
    exact map_content_place hplace
  · rw [stream_push h, if_neg hother, List.append_nil]
  · rw [← UInt64.toNat_inj, latest_push h, if_neg hother, Nat.add_zero]
  · have hnone : appended.filter q.selects = [] :=
      List.filter_eq_nil_iff.mpr fun e he => by simp [hq e (hkey e he)]
    rw [filter, filter, Query.run, Query.run, hlog, List.filter_append, hnone, List.append_nil]
  · rw [filter, filter, Query.run_of_limit_none hq, Query.run_of_limit_none hq, hlog,
      List.filter_append]

/-! ### Every store that is reached -/

/-- **What holds in every store that is reached.** In each stream the positions are 1, 2 and so on
in the order of the log, the latest position is the number of events, and all events have one owner.
And whatever is given to the store to append: either it refuses that, and everything that it is
asked later is answered as if it had not been given; or it says which events it has appended, and
it grew by these. Only if the stream would come to have more events than there are positions, the
append is broken off, and that too leaves everything as it was. -/
theorem Reached.consistent (h : s.Reached) :
    (∀ key, (s.stream key).map (·.position.toNat) = List.range' 1 (s.stream key).length ∧
        (s.latest key).toNat = (s.stream key).length ∧
        ∃ owner, ∀ e ∈ s.stream key, e.resourceOwner = owner) ∧
      ∀ now who condition pending,
        (∃ e, ∀ later, s.serve (.push now who condition pending :: later) =
            (.refused e :: (s.serve later).1, (s.serve later).2)) ∨
          (∃ appended s', s.perform (.push now who condition pending) = (.events appended, s') ∧
            s.Grows who.key pending appended s') ∨
          (UInt64.size ≤ (s.stream who.key).length + pending.length ∧
            ∀ later, s.serve (.push now who condition pending :: later) =
              (.brokenOff :: (s.serve later).1, (s.serve later).2)) := by
  have hsound := h.sound
  refine ⟨fun key => ⟨hsound.positions key, hsound.latest key, ?_⟩,
    fun now who condition pending => ?_⟩
  · cases hstream : s.stream key with
    | nil => exact ⟨"", by simp⟩
    | cons first rest =>
      refine ⟨first.resourceOwner, fun e he => ?_⟩
      exact hsound.owner_eq (hstream ▸ he) (hstream ▸ List.mem_cons_self)
  · cases hpush : s.push now who condition pending with
    | error e => exact .inl ⟨e, fun later => by rw [serve_cons, perform_of_push_error hpush]⟩
    | ok result => exact .inr (.inl ⟨_, _, perform_of_push hpush, grows_of_push hpush⟩)
    | overflow =>
      have hfull := (push_eq_overflow_iff.mp hpush).2.2
      rw [HasRoom, hsound.latest] at hfull
      exact .inr (.inr ⟨Nat.not_lt.mp hfull, fun later => by
        rw [serve_cons, perform_of_push_overflow hpush]⟩)

/-- A store with two streams, one of them somebody's and one nobody's. Of the appends that led to it
one came from another owner, one expected its stream elsewhere, and one was of no events. -/
def mixedStore : Store := (empty.serve [
  .push .epoch (.session "s" (some "org")) (.atPosition 0) [⟨"a", .null, "x"⟩, ⟨"b", .null, "x"⟩],
  .push .epoch (.session "s" (some "rival")) (.atPosition 2) [⟨"c", .null, "y"⟩],
  .push .epoch ⟨"user", "s", none⟩ (.atPosition 0) [],
  .push .epoch ⟨"user", "s", none⟩ (.atPosition 0) [⟨"d", .null, "z"⟩],
  .push .epoch (.session "s" none) (.atPosition 1) [⟨"e", .null, "x"⟩]]).2

theorem consistent_mixedStore :
    mixedStore.Reached ∧
      (mixedStore.stream ⟨sessionType, "s"⟩).map (·.position.toNat) = [1, 2] ∧
      (mixedStore.latest ⟨"user", "s"⟩).toNat = 1 ∧
      ∃ appended s', mixedStore.perform
          (.push .epoch (.session "s" none) (.atPosition 2) [⟨"e", .null, "x"⟩]) =
            (.events appended, s') ∧
        mixedStore.Grows ⟨sessionType, "s"⟩ [⟨"e", .null, "x"⟩] appended s' := by
  have hreached : mixedStore.Reached := ⟨_, rfl⟩
  obtain ⟨hstreams, hpush⟩ := hreached.consistent
  refine ⟨hreached, (hstreams ⟨sessionType, "s"⟩).1, (hstreams ⟨"user", "s"⟩).2.1, ?_⟩
  rcases hpush .epoch (.session "s" none) (.atPosition 2) [⟨"e", .null, "x"⟩] with
    ⟨e, hrefused⟩ | hgrown | ⟨hfull, -⟩
  · have hanswer : (mixedStore.serve
        [.push .epoch (.session "s" none) (.atPosition 2) [⟨"e", .null, "x"⟩]]).1 = [.refused e] :=
      congrArg Prod.fst (hrefused [])
    cases hanswer
  · exact hgrown
  · exact absurd hfull (by decide)

end Store

end SessionLedger
