import SessionLedger.Proofs.Importing

/-!
# Positions that run out

An append numbers its events on from the last position of their stream. In a store that began empty
each number up to the last has its event, and so many events there are not. An imported log can
begin anywhere: its last position may be the greatest that there is, and then there is none for
another event.

Whatever goes through keeps its stream in order, from there on as from anywhere else. What does not
go through, though nobody has anything against it, is broken off. That is decided by two numbers,
the last position of the stream and the count of events that are to follow.

## Main definitions

* `lastPosition` — where the last event of a stream lies
* `Store.Continues` — a stream goes on from where it was

## Main results

* `Store.Continues.push` — every append that goes through makes its stream go on
* `Store.Continues.latest_eq` — the index knows where the last event of a stream lies
* `Store.Continues.inOrder` — the events of a stream stay in order
* `Store.numbering_continues` — how positions go on after an import
* `Store.positions_run_out` — there is none behind the greatest
-/

namespace SessionLedger

/-! ### The last position -/

/-- Where the last event of a stream lies, 0 if there is none. -/
def lastPosition (stream : List Event) : UInt64 := (stream.getLast?.map (·.position)).getD 0

theorem lastPosition_concat (stream : List Event) (e : Event) :
    lastPosition (stream ++ [e]) = e.position := by
  rw [lastPosition, List.getLast?_concat]
  rfl

/-- In a stream in order, the last position is the greatest. -/
theorem greatest_positions {stream : List Event}
    (h : stream.Pairwise fun e e' => e.position < e'.position) :
    Condition.greatest (stream.map (·.position)) = lastPosition stream := by
  rcases List.eq_nil_or_concat' stream with rfl | ⟨init, last, rfl⟩
  · rfl
  · rw [lastPosition_concat]
    refine UInt64.le_antisymm (Condition.greatest_le fun position hmem => ?_)
      (Condition.le_greatest (by simp))
    obtain ⟨e, he, rfl⟩ := List.mem_map.mp hmem
    rcases List.mem_append.mp he with he | he
    · exact UInt64.le_of_lt ((List.pairwise_append.mp h).2.2 e he last (by simp))
    · rw [List.mem_singleton.mp he]
      exact UInt64.le_refl _

theorem le_lastPosition {stream : List Event}
    (h : stream.Pairwise fun e e' => e.position < e'.position) :
    ∀ e ∈ stream, e.position ≤ lastPosition stream := by
  intro e he
  rw [← greatest_positions h]
  exact Condition.le_greatest (List.mem_map_of_mem he)

namespace Store

variable {s s' imported : Store} {key : StreamKey} {added appended log : List Event}

theorem Indexed.latest_eq (h : s.Indexed) (key : StreamKey) :
    s.latest key = lastPosition (s.stream key) := by
  rw [latest, h key, headOf?]
  cases s.stream key <;> rfl

/-! ### Streams that go on -/

/-- A stream goes on from where it was, by events at the positions that follow. -/
structure Continues (imported s : Store) (key : StreamKey) (added : List Event) : Prop where
  stream : s.stream key = imported.stream key ++ added
  positions : added.map (·.position.toNat) =
    List.range' ((imported.latest key).toNat + 1) added.length
  latest : (s.latest key).toNat = (imported.latest key).toNat + added.length

namespace Continues

theorem refl (s : Store) (key : StreamKey) : s.Continues s key [] where
  stream := (List.append_nil _).symm
  positions := rfl
  latest := rfl

/-- Every append that goes through makes its stream go on. -/
theorem push (h : imported.Continues s key added) {now : Instant} {who : Identity}
    {condition : Condition} {pending : List PendingEvent}
    (hpush : s.push now who condition pending = .ok (appended, s')) :
    imported.Continues s' key (added ++ if key = who.key then appended else []) := by
  have hlatest := latest_push hpush key
  refine ⟨by rw [stream_push hpush, h.stream, List.append_assoc], ?_, ?_⟩
  · split
    · next hkey =>
      rw [List.map_append, h.positions, positions_push hpush, ← hkey, h.latest,
        List.length_append, Nat.add_right_comm, List.range'_append_1]
    · rw [List.append_nil, h.positions]
  · rw [hlatest, h.latest, List.length_append, Nat.add_assoc]
    split <;> rfl

/-- The index knows where the last event of the stream lies. -/
theorem latest_eq (h : imported.Continues s key added)
    (himported : imported.latest key = lastPosition (imported.stream key)) :
    s.latest key = lastPosition (s.stream key) := by
  rcases List.eq_nil_or_concat' added with rfl | ⟨init, last, rfl⟩
  · rw [h.stream, List.append_nil, ← himported]
    exact UInt64.toNat_inj.mp h.latest
  · have hlast := congrArg List.getLast? h.positions
    rw [List.length_append, List.length_singleton, List.range'_concat, List.getLast?_concat,
      List.map_append, List.map_singleton, List.getLast?_concat] at hlast
    rw [h.stream, ← List.append_assoc, lastPosition_concat, ← UInt64.toNat_inj, h.latest,
      Option.some.inj hlast, List.length_append, List.length_singleton]
    omega

/-- The events that were added lie past the import. -/
theorem past_import (h : imported.Continues s key added) :
    ∀ e ∈ added, imported.latest key < e.position := by
  intro e he
  have hmem : e.position.toNat ∈ added.map (·.position.toNat) := List.mem_map_of_mem he
  rw [h.positions, List.mem_range'_1] at hmem
  exact UInt64.lt_iff_toNat_lt.mpr (by omega)

theorem increasing (h : imported.Continues s key added)
    (horder : (imported.stream key).Pairwise fun e e' => e.position < e'.position)
    (himported : imported.latest key = lastPosition (imported.stream key)) :
    (s.stream key).Pairwise fun e e' => e.position < e'.position := by
  rw [h.stream, List.pairwise_append]
  refine ⟨horder, increasing_of_range' h.positions, fun e he e' he' => ?_⟩
  exact UInt64.lt_of_le_of_lt (himported ▸ le_lastPosition horder e he) (h.past_import e' he')

end Continues

/-- Operations make every stream go on. -/
theorem exists_continues (imported : Store) (ops : List Operation) (key : StreamKey) :
    ∃ added, imported.Continues (imported.serve ops).2 key added := by
  refine serve_induction (P := fun s => ∃ added, imported.Continues s key added)
    ⟨[], .refl imported key⟩ fun now who condition pending appended s s' _ hs hpush => ?_
  obtain ⟨added, hadded⟩ := hs
  exact ⟨_, hadded.push hpush⟩

/-! ### Imported logs -/

/-- What the events of a stream ask for, if they are imported on their own. -/
theorem inOrder_stream_iff : InOrder (s.stream key) ↔
    (∀ e ∈ s.stream key, 0 < e.position) ∧
      (s.stream key).Pairwise fun e e' => e.position < e'.position := by
  constructor
  · intro horder
    have hown : (s.stream key).filter (fun e => e.key == key) = s.stream key :=
      List.filter_eq_self.mpr fun e he => beq_iff_eq.mpr (mem_stream.mp he).2
    exact ⟨horder.positive, hown ▸ horder.increasing key⟩
  · rintro ⟨hpositive, hincreasing⟩
    exact ⟨hpositive, fun other => hincreasing.filter _⟩

/-- The events of a stream stay in order. -/
theorem Continues.inOrder (h : imported.Continues s key added)
    (himport : ofEvents log = .ok imported) : InOrder (s.stream key) := by
  obtain ⟨horder, rfl, hindexed⟩ := of_ofEvents himport
  refine inOrder_stream_iff.mpr
    ⟨fun e he => ?_, h.increasing (horder.increasing key) (hindexed.latest_eq key)⟩
  rcases List.mem_append.mp (h.stream ▸ he) with he | he
  · exact horder.positive e (mem_stream.mp he).1
  · exact UInt64.lt_of_le_of_lt UInt64.zero_le (h.past_import e he)

/-- **How positions go on after an import.** Whatever is done to a store that was imported, each of
its streams goes on by events at the positions that follow its last one: none of their numbers is
reduced, each event lies past all that were there before it, the index knows the greatest position,
and the events of the stream can be imported again. An append that nobody turns away goes through
just if there is room for its events. Otherwise it is broken off, and everything that the store is
asked later is answered as if it had not been tried. -/
theorem numbering_continues (himport : ofEvents log = .ok imported) (ops : List Operation)
    (hs : (imported.serve ops).2 = s) (key : StreamKey) :
    (∃ added, imported.Continues s key added) ∧
      (s.stream key).Pairwise (fun e e' => e.position < e'.position) ∧
      s.latest key = Condition.greatest ((s.stream key).map (·.position)) ∧
      (∃ again, ofEvents (s.stream key) = .ok again) ∧
      ∀ now who condition pending, who.key = key →
        belongsToOther (s.headFor who) who = false →
        condition.check (s.stream key) = .ok () →
        ((∃ appended s', s.perform (.push now who condition pending) = (.events appended, s') ∧
            s.Grows key pending appended s') ↔ s.HasRoom key pending.length) ∧
          (¬ s.HasRoom key pending.length →
            ∀ later, s.serve (.push now who condition pending :: later) =
              (.brokenOff :: (s.serve later).1, (s.serve later).2)) := by
  subst hs
  obtain ⟨added, hadded⟩ := exists_continues imported ops key
  have hinorder := hadded.inOrder himport
  obtain ⟨-, -, hindexed⟩ := of_ofEvents himport
  have hincreasing := (inOrder_stream_iff.mp hinorder).2
  refine ⟨⟨added, hadded⟩, hincreasing, ?_, exists_ofEvents_iff.mpr hinorder, ?_⟩
  · rw [greatest_positions hincreasing, hadded.latest_eq (hindexed.latest_eq key)]
  · rintro now who condition pending rfl hother hcheck
    have hbroken : ¬ (imported.serve ops).2.HasRoom who.key pending.length →
        (imported.serve ops).2.perform (.push now who condition pending) =
          (.brokenOff, (imported.serve ops).2) := fun hfull =>
      perform_of_push_overflow (push_eq_overflow_iff.mpr ⟨hother, hcheck, hfull⟩)
    refine ⟨⟨fun hgrown => ?_, fun hroom => ?_⟩, fun hfull later => ?_⟩
    · by_contra hfull
      obtain ⟨appended, s', hperform, -⟩ := hgrown
      rw [hbroken hfull] at hperform
      cases hperform
    · obtain ⟨appended, s', hpush⟩ := exists_push hother hcheck hroom now
      exact ⟨appended, s', perform_of_push hpush, grows_of_push hpush⟩
    · rw [serve_cons, hbroken hfull]

/-- A session's log with a gap, up to a position. -/
def logUpTo (position : UInt64) : List Event :=
  [PendingEvent.stored ⟨"a", .null, ""⟩ ⟨sessionType, "s"⟩ "org" 3 .epoch,
    PendingEvent.stored ⟨"b", .null, ""⟩ ⟨sessionType, "s"⟩ "org" position .epoch]

/-- The store of that log. -/
def storeUpTo (position : UInt64) : Store :=
  ⟨logUpTo position, [(⟨sessionType, "s"⟩, ⟨position, "org"⟩)]⟩

/-- One more event, at the end of the session. -/
def oneMore (position : UInt64) : Operation :=
  .push .epoch (.session "s" none) (.atPosition position) [⟨"c", .null, ""⟩]

/-- The last two positions that there are are given away, and a third event is too many. -/
theorem numbering_continues_lastTwo :
    ofEvents (logUpTo 18446744073709551613) = .ok (storeUpTo 18446744073709551613) ∧
      ∃ s, ((storeUpTo 18446744073709551613).serve
          [oneMore 18446744073709551613, oneMore 18446744073709551614]).2 = s ∧
        s.latest ⟨sessionType, "s"⟩ = 18446744073709551615 ∧
        (s.stream ⟨sessionType, "s"⟩).Pairwise (fun e e' => e.position < e'.position) ∧
        (∃ again, ofEvents (s.stream ⟨sessionType, "s"⟩) = .ok again) ∧
        (s.serve [oneMore 18446744073709551615]).1 = [.brokenOff] := by
  have himport : ofEvents (logUpTo 18446744073709551613) =
    .ok (storeUpTo 18446744073709551613) := rfl
  obtain ⟨-, hincreasing, -, hagain, hnext⟩ :=
    numbering_continues himport [oneMore 18446744073709551613, oneMore 18446744073709551614] rfl
      ⟨sessionType, "s"⟩
  have hbroken := (hnext .epoch (.session "s" none) (.atPosition 18446744073709551615)
    [⟨"c", .null, ""⟩] rfl rfl rfl).2 (by decide) []
  exact ⟨himport, _, rfl, rfl, hincreasing, hagain, congrArg Prod.fst hbroken⟩

/-- There is no position behind the greatest: a log that ends there can be imported, and to append
one more event to its stream is to be broken off. -/
theorem positions_run_out :
    ofEvents (logUpTo 18446744073709551615) = .ok (storeUpTo 18446744073709551615) ∧
      (storeUpTo 18446744073709551615).perform (oneMore 18446744073709551615) =
        (.brokenOff, storeUpTo 18446744073709551615) :=
  ⟨rfl, rfl⟩

end Store

end SessionLedger
