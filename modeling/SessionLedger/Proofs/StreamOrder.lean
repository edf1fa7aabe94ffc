import SessionLedger.Store.Basic
import Mathlib.Data.List.Range
import Mathlib.Tactic.Common

/-!
# The order inside a stream

A store says the same thing twice: the log holds the events, and the index holds for each stream
the position of its last event and its owner. Only the index decides where the next event goes and
whose it is, so everything that readers of the log rely on has to be carried from one append to the
next as an agreement of the two.

## Bounds

Positions are numbers of 64 bits, and an append is broken off if its stream has no room for so many
further positions. So nothing has to be assumed of the size of a log: an append that comes through
has had the room that it needed.

## Main definitions

* `Store.HasRoom` — the positions of a stream do not run out with some more events
* `Store.Sound` — positions count the events of a stream from 1 on, the index knows the last of
  them, and all events of a stream belong to the owner that the index names

## Main results

* `Store.positions_place` — the positions of an append follow each other
* `Store.push_eq_ok_iff` — everything an admitted append does
* `Store.push_eq_overflow_iff` — when an append is broken off
* `Store.Sound.push` — an append keeps the store sound
* `Store.Sound.increasing` — later events of a stream have greater positions
* `Store.Sound.owner_eq` — all events of a stream have one owner
-/

namespace SessionLedger

namespace Store

variable {s s' : Store} {key : StreamKey} {owner : String} {now : Instant} {who : Identity}
  {condition : Condition} {pending : List PendingEvent} {events : List Event}

/-! ### What an append does -/

/-- Before the last position, there is a next one. -/
theorem toNat_add_one {position : UInt64} (h : position.toNat + 1 < UInt64.size) :
    (position + 1).toNat = position.toNat + 1 :=
  (UInt64.toNat_add ..).trans (Nat.mod_eq_of_lt h)

/-- Events find their places just if there is a position for each. -/
theorem exists_place_iff (key : StreamKey) (owner : String) (now : Instant) (position : UInt64)
    (pending : List PendingEvent) :
    (∃ events, place key owner now position pending = some events) ↔
      position.toNat + pending.length < UInt64.size := by
  induction pending generalizing position with
  | nil => simpa [place] using position.toNat_lt_size
  | cons p pending ih =>
    simp only [place_cons_eq_some_iff, List.length_cons]
    constructor
    · rintro ⟨_, hnext, rest, hrest, -⟩
      have hroom := (ih (position + 1)).mp ⟨rest, hrest⟩
      rw [toNat_add_one hnext] at hroom
      omega
    · intro hroom
      have hnext : position.toNat + 1 < UInt64.size := by omega
      obtain ⟨rest, hrest⟩ := (ih (position + 1)).mpr (by rw [toNat_add_one hnext]; omega)
      exact ⟨_, hnext, rest, hrest, rfl⟩

/-- The positions of events at their places follow each other. -/
theorem positions_place {position : UInt64}
    (h : place key owner now position pending = some events) :
    events.map (·.position.toNat) = List.range' (position.toNat + 1) events.length := by
  induction pending generalizing position events with
  | nil =>
    cases h
    rfl
  | cons p pending ih =>
    obtain ⟨hnext, rest, hrest, rfl⟩ := place_cons_eq_some_iff.mp h
    rw [List.map_cons, ih hrest, toNat_add_one hnext, List.length_cons, List.range'_succ]
    exact congrArg (· :: _) (toNat_add_one hnext)

/-- An admitted append, with nothing left out. -/
theorem push_eq_ok_iff :
    s.push now who condition pending = .ok (events, s') ↔
      belongsToOther (s.headFor who) who = false ∧
        condition.check (s.stream who.key) = .ok () ∧
        place who.key (s.headFor who).owner now (s.headFor who).position pending = some events ∧
        s' = ⟨s.log ++ events, setHead s.heads who.key
          { s.headFor who with
            position := (s.headFor who).position + UInt64.ofNat pending.length }⟩ := by
  rw [push]
  constructor
  · intro h
    simp only at h
    split at h
    · cases h
    · next hother =>
      split at h
      · cases h
      · next hcheck =>
        split at h
        · cases h
        · next hplace =>
          cases h
          exact ⟨by simpa using hother, hcheck, hplace, rfl⟩
  · rintro ⟨hother, hcheck, hplace, rfl⟩
    simp [hother, hcheck, hplace]

theorem mem_stream {e : Event} : e ∈ s.stream key ↔ e ∈ s.log ∧ e.key = key := by
  simp [stream]

/-- A writer finds a stream at its last position. -/
theorem position_headFor (s : Store) (who : Identity) :
    (s.headFor who).position = s.latest who.key := by
  rw [headFor, latest]
  cases s.head? who.key <;> rfl

/-- The positions of a stream do not run out with some more events. -/
def HasRoom (s : Store) (key : StreamKey) (n : Nat) : Prop :=
  (s.latest key).toNat + n < UInt64.size

instance decidableHasRoom (n : Nat) : Decidable (s.HasRoom key n) :=
  inferInstanceAs (Decidable (_ < _))

/-- Who may write and finds the stream as expected is let in if there is room. -/
theorem exists_push (hother : belongsToOther (s.headFor who) who = false)
    (hcheck : condition.check (s.stream who.key) = .ok ())
    (hroom : s.HasRoom who.key pending.length) (now : Instant) :
    ∃ events s', s.push now who condition pending = .ok (events, s') := by
  rw [HasRoom, ← position_headFor] at hroom
  obtain ⟨events, hplace⟩ :=
    (exists_place_iff who.key (s.headFor who).owner now _ pending).mpr hroom
  exact ⟨events, _, push_eq_ok_iff.mpr ⟨hother, hcheck, hplace, rfl⟩⟩

theorem hasRoom_of_push (h : s.push now who condition pending = .ok (events, s')) :
    s.HasRoom who.key pending.length := by
  obtain ⟨-, -, hplace, -⟩ := push_eq_ok_iff.mp h
  rw [HasRoom, ← position_headFor]
  exact (exists_place_iff ..).mp ⟨events, hplace⟩

/-- Who may write and finds the stream as expected is not turned away. -/
theorem push_ne_error (hother : belongsToOther (s.headFor who) who = false)
    (hcheck : condition.check (s.stream who.key) = .ok ()) (now : Instant)
    (pending : List PendingEvent) (e : Error) : s.push now who condition pending ≠ .error e := by
  intro herror
  simp only [push, hother, hcheck, Bool.false_eq_true, if_false] at herror
  split at herror <;> cases herror

/-- **When an append is broken off.** Who may write and finds the stream as expected is let in, but
there is no room. -/
theorem push_eq_overflow_iff :
    s.push now who condition pending = .overflow ↔
      belongsToOther (s.headFor who) who = false ∧
        condition.check (s.stream who.key) = .ok () ∧ ¬ s.HasRoom who.key pending.length := by
  have hfull : place who.key (s.headFor who).owner now (s.headFor who).position pending = none ↔
      ¬ s.HasRoom who.key pending.length := by
    rw [HasRoom, ← position_headFor, ← exists_place_iff who.key (s.headFor who).owner now,
      Option.eq_none_iff_forall_ne_some, not_exists]
  rw [push, ← hfull]
  constructor
  · intro h
    simp only at h
    split at h
    · cases h
    · next hother =>
      split at h
      · cases h
      · next hcheck =>
        split at h
        · next hplace => exact ⟨by simpa using hother, hcheck, hplace⟩
        · cases h
  · rintro ⟨hother, hcheck, hplace⟩
    simp [hother, hcheck, hplace]

theorem filter_key_place {key' : StreamKey} {position : UInt64}
    (h : place key' owner now position pending = some events) :
    events.filter (fun e => e.key == key) = if key = key' then events else [] := by
  split
  · next hk =>
    subst hk
    refine List.filter_eq_self.mpr fun e he => ?_
    simp [(key_of_mem_place h he).1]
  · next hk =>
    refine List.filter_eq_nil_iff.mpr fun e he => ?_
    simpa [(key_of_mem_place h he).1] using Ne.symm hk

theorem kind_of_mem_place {position : UInt64} {e : Event}
    (h : place key owner now position pending = some events) (he : e ∈ events) :
    ∃ p ∈ pending, e.kind = p.kind := by
  induction pending generalizing position events with
  | nil =>
    cases h
    cases he
  | cons p pending ih =>
    obtain ⟨-, rest, hrest, rfl⟩ := place_cons_eq_some_iff.mp h
    rcases List.mem_cons.mp he with rfl | he
    · exact ⟨p, List.mem_cons_self, rfl⟩
    · obtain ⟨p', hp', hkind⟩ := ih hrest he
      exact ⟨p', List.mem_cons_of_mem p hp', hkind⟩

/-- An append extends its own stream by its events and no other stream. -/
theorem stream_push (h : s.push now who condition pending = .ok (events, s')) (key : StreamKey) :
    s'.stream key = s.stream key ++ if key = who.key then events else [] := by
  obtain ⟨-, -, hplace, rfl⟩ := push_eq_ok_iff.mp h
  rw [stream_append, filter_key_place hplace]
  rfl

/-- The positions of an append follow the last one of its stream. -/
theorem positions_push (h : s.push now who condition pending = .ok (events, s')) :
    events.map (·.position.toNat) =
      List.range' ((s.latest who.key).toNat + 1) events.length := by
  obtain ⟨-, -, hplace, -⟩ := push_eq_ok_iff.mp h
  rw [← position_headFor]
  exact positions_place hplace

/-- What the index answers about the end of a stream after an append. -/
theorem latest_push (h : s.push now who condition pending = .ok (events, s')) (key : StreamKey) :
    (s'.latest key).toNat =
      (s.latest key).toNat + if key = who.key then events.length else 0 := by
  have hroom := hasRoom_of_push h
  have hlength := (push_log h).2.1
  obtain ⟨-, -, -, rfl⟩ := push_eq_ok_iff.mp h
  rw [latest_setHead]
  split
  · next hkey =>
    subst hkey
    rw [position_headFor, hlength, UInt64.toNat_add, UInt64.toNat_ofNat', Nat.add_mod_mod]
    exact Nat.mod_eq_of_lt hroom
  · rfl

/-- Events at numbers that follow each other are in order. -/
theorem increasing_of_range' {first : Nat}
    (h : events.map (·.position.toNat) = List.range' first events.length) :
    events.Pairwise fun e e' => e.position < e'.position := by
  have hrange : (events.map (·.position.toNat)).Pairwise (· < ·) := by
    rw [h]
    exact List.pairwise_lt_range'
  exact (List.pairwise_map.mp hrange).imp UInt64.lt_iff_toNat_lt.mpr

end Store

/-! ### Agreement of log and index -/

/-- Log and index agree. -/
structure Store.Sound (s : Store) : Prop where
  /-- The positions of a stream are 1, 2 and so on, in the order of the log. -/
  positions : ∀ key,
    (s.stream key).map (·.position.toNat) = List.range' 1 (s.stream key).length
  /-- The index has the last position. -/
  latest : ∀ key, (s.latest key).toNat = (s.stream key).length
  /-- All events of a stream are the owner's. -/
  owner : ∀ key head, s.head? key = some head →
    ∀ e ∈ s.stream key, e.resourceOwner = head.owner

namespace Store.Sound

open Store

variable {s s' : Store} {key : StreamKey}

theorem empty : Store.empty.Sound where
  positions _ := rfl
  latest _ := rfl
  owner _ _ _ e he := absurd he (by simp [stream, Store.empty])

/-- In a sound store the index knows every stream that has events. -/
theorem exists_head (h : s.Sound) {e : Event} (he : e ∈ s.stream key) :
    ∃ head, s.head? key = some head := by
  cases hhead : s.head? key with
  | some head => exact ⟨head, rfl⟩
  | none =>
    have hzero : s.latest key = 0 := by simp [Store.latest, hhead]
    have hlen := h.latest key
    rw [hzero] at hlen
    rw [List.eq_nil_of_length_eq_zero hlen.symm] at he
    exact absurd he (by simp)

theorem owner_eq (h : s.Sound) {e e' : Event} (he : e ∈ s.stream key) (he' : e' ∈ s.stream key) :
    e.resourceOwner = e'.resourceOwner := by
  obtain ⟨head, hhead⟩ := h.exists_head he
  rw [h.owner key head hhead e he, h.owner key head hhead e' he']

theorem increasing (h : s.Sound) (key : StreamKey) :
    (s.stream key).Pairwise fun e e' => e.position < e'.position :=
  increasing_of_range' (h.positions key)

theorem position_pos (h : s.Sound) {e : Event} (he : e ∈ s.stream key) : 0 < e.position := by
  have hmem : e.position.toNat ∈ (s.stream key).map (·.position.toNat) :=
    List.mem_map.mpr ⟨e, he, rfl⟩
  rw [h.positions key, List.mem_range'_1] at hmem
  exact UInt64.lt_iff_toNat_lt.mpr hmem.1

theorem pos_of_mem (h : s.Sound) {e : Event} (he : e ∈ s.log) : 0 < e.position :=
  h.position_pos (mem_stream.mpr ⟨he, rfl⟩)

/-- An append keeps the store sound. -/
theorem push (h : s.Sound) {now : Instant} {who : Identity} {condition : Condition}
    {pending : List PendingEvent} {events : List Event}
    (hpush : s.push now who condition pending = .ok (events, s')) : s'.Sound := by
  have hstream := stream_push hpush
  have hlatest := latest_push hpush
  obtain ⟨-, -, hplace, hs'⟩ := push_eq_ok_iff.mp hpush
  refine ⟨fun key => ?_, fun key => ?_, fun key head hhead e he => ?_⟩
  · rw [hstream key]
    split
    · next hk =>
      subst hk
      rw [List.map_append, h.positions, positions_push hpush, h.latest, List.length_append,
        Nat.add_comm _ 1, List.range'_append_1]
    · simp [h.positions key]
  · rw [hstream key, hlatest key, h.latest]
    split <;> simp
  · rw [hstream key] at he
    rw [hs'] at hhead
    simp only [head?, lookup_setHead] at hhead
    split at hhead
    · next hk =>
      subst hk
      cases hhead
      rcases List.mem_append.mp he with he | he
      · obtain ⟨head, hhead⟩ := h.exists_head he
        rw [h.owner _ head hhead e he, headFor, hhead]
        rfl
      · rw [if_pos rfl] at he
        exact (key_of_mem_place hplace he).2.1
    · next hk =>
      rw [if_neg hk, List.append_nil] at he
      exact h.owner key head hhead e he

end Store.Sound

end SessionLedger
