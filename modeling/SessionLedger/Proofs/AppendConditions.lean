import SessionLedger.Proofs.Importing

/-!
# What an append condition asks

A writer names a query and a position, and asks that no event of the stream that the query selects
lies past the position. The store does not look for such an event. It takes the greatest position
among the events that are selected, and compares that with the writer's.

Both come to the same if the writer's position is one at which its query has seen an event, or the
one before all events. Then the greatest position is never the smaller one, and that it is not the
greater one is what the writer asks. If the position lies past everything that the query selects, be
it at an event that is not selected, nothing stands in the writer's way, and the store still reports
a conflict: the position it names as the actual one is behind the one that was expected.

A writer that is not turned away may still find the positions of its stream run out, in a log that
was imported from far up. Then its append is broken off, and nothing has changed.

## Main definitions

* `Condition.Clear`, `Condition.Anchored` — what a writer asks, and a position that its query has
  seen
* `Store.Grown` — the store comes of operations on an imported log
* `Store.Open` — the stream is not somebody else's

## Main results

* `Condition.check_eq_ok_iff_clear` — what the store tests, in these terms
* `Store.append_as_asked` — who is let in, who is not, and why
* `Store.refused_ahead` — a writer with nothing in its way that is turned away
-/

namespace SessionLedger

/-! ### The last event that is selected -/

namespace Condition

variable {c : Condition} {stream : List Event}

theorem greatest_mem (positions : List UInt64) :
    greatest positions = 0 ∨ greatest positions ∈ positions := by
  refine foldl_mem_of_chooses (fun a b => ?_) positions 0
  show (if a ≤ b then b else a) = a ∨ (if a ≤ b then b else a) = b
  split
  · exact .inr rfl
  · exact .inl rfl

/-- What is observed is where an event that is selected lies, if there is any. -/
theorem observed_cases (c : Condition) (stream : List Event) :
    c.observed stream = 0 ∨
      ∃ e ∈ stream, c.query.selects e = true ∧ e.position = c.observed stream := by
  rcases greatest_mem ((stream.filter c.query.selects).map (·.position)) with hzero | hmem
  · exact .inl hzero
  · obtain ⟨e, he, hposition⟩ := List.mem_map.mp hmem
    obtain ⟨hstream, hsel⟩ := List.mem_filter.mp he
    exact .inr ⟨e, hstream, hsel, hposition⟩

/-- No event that the query selects lies past the position. -/
def Clear (c : Condition) (stream : List Event) : Prop :=
  ∀ e ∈ stream, c.query.selects e = true → e.position ≤ c.position

/-- The position is that of an event that the query selects, or the one before all events. -/
def Anchored (c : Condition) (stream : List Event) : Prop :=
  c.position = 0 ∨ ∃ e ∈ stream, c.query.selects e = true ∧ e.position = c.position

instance decidableClear : Decidable (c.Clear stream) :=
  inferInstanceAs (Decidable (∀ e ∈ stream, c.query.selects e = true → e.position ≤ c.position))

instance decidableAnchored : Decidable (c.Anchored stream) :=
  inferInstanceAs (Decidable (c.position = 0 ∨
    ∃ e ∈ stream, c.query.selects e = true ∧ e.position = c.position))

theorem observed_le_iff : c.observed stream ≤ c.position ↔ c.Clear stream := by
  constructor
  · intro hle e he hsel
    exact UInt64.le_trans (le_observed he hsel) hle
  · intro hclear
    refine greatest_le fun p hp => ?_
    obtain ⟨e, he, rfl⟩ := List.mem_map.mp hp
    obtain ⟨hstream, hsel⟩ := List.mem_filter.mp he
    exact hclear e hstream hsel

theorem Anchored.le_observed (h : c.Anchored stream) : c.position ≤ c.observed stream := by
  rcases h with hzero | ⟨e, he, hsel, hposition⟩
  · rw [hzero]
    exact UInt64.zero_le
  · rw [← hposition]
    exact Condition.le_observed he hsel

/-- **What the store tests.** Nothing that the query selects lies past the position, and the query
has seen the position. -/
theorem check_eq_ok_iff_clear : c.check stream = .ok () ↔ c.Clear stream ∧ c.Anchored stream := by
  rw [check_eq_ok_iff]
  constructor
  · intro hobserved
    refine ⟨observed_le_iff.mp (hobserved ▸ UInt64.le_refl _), ?_⟩
    rcases c.observed_cases stream with hzero | hseen
    · exact .inl (hobserved ▸ hzero)
    · rw [hobserved] at hseen
      exact .inr hseen
  · rintro ⟨hclear, hanchored⟩
    exact UInt64.le_antisymm (observed_le_iff.mpr hclear) hanchored.le_observed

/-- A position that is not clear is in conflict with the last event that is selected. -/
theorem exists_last_of_not_clear (h : ¬ c.Clear stream) :
    ∃ last ∈ stream, c.query.selects last = true ∧
      (∀ e ∈ stream, c.query.selects e = true → e.position ≤ last.position) ∧
      c.check stream = .error (.conflict c.position last.position) := by
  have hpast : c.position < c.observed stream :=
    UInt64.not_le.mp fun hle => h (observed_le_iff.mp hle)
  rcases c.observed_cases stream with hzero | ⟨last, hlast, hsel, hposition⟩
  · rw [hzero] at hpast
    exact absurd hpast (UInt64.not_lt.mpr UInt64.zero_le)
  · refine ⟨last, hlast, hsel, fun e he hsel => ?_, check_eq_error_iff.mpr ⟨?_, ?_⟩⟩
    · rw [hposition]
      exact Condition.le_observed he hsel
    · rintro heq
      rw [heq] at hpast
      exact absurd hpast (UInt64.lt_irrefl _)
    · rw [hposition]

/-- What is not selected takes no part in it. -/
theorem check_congr {stream' : List Event}
    (h : stream'.filter c.query.selects = stream.filter c.query.selects) :
    c.check stream' = c.check stream := by
  rw [check, check, observed, observed, h]

end Condition

/-! ### Streams that are open to a writer -/

namespace Store

variable {s s' : Store} {now : Instant} {who : Identity} {condition : Condition}
  {pending : List PendingEvent}

/-- The store comes of a sequence of operations on an imported log, which may be empty. -/
def Grown (s : Store) : Prop :=
  ∃ log imported ops, ofEvents log = .ok imported ∧ (imported.serve ops).2 = s

theorem Headed.serve (h : s.Headed) (ops : List Operation) : (s.serve ops).2.Headed := by
  refine serve_induction (P := Headed) h ?_
  intro now who condition pending appended s s' _ hs hpush
  exact hs.push hpush

theorem Grown.headed (h : s.Grown) : s.Headed := by
  obtain ⟨log, imported, ops, himport, rfl⟩ := h
  exact (of_ofEvents himport).2.2.headed.serve ops

/-- The stream is not somebody else's: it was begun by the writer's owner or by nobody, or the
writer names no owner. -/
def Open (s : Store) (who : Identity) : Prop :=
  ∀ first, (s.stream who.key).head? = some first → first.resourceOwner ≠ "" →
    ∀ owner ∈ who.owner?, owner = first.resourceOwner

theorem Headed.belongsToOther_of_open (h : s.Headed) (hopen : s.Open who) :
    belongsToOther (s.headFor who) who = false := by
  cases hstream : s.stream who.key with
  | nil =>
    have hvacant : (s.headFor who).position = 0 := by rw [position_headFor, h.vacant _ hstream]
    simp [belongsToOther, hvacant]
  | cons first rest =>
    have hfirst : (s.stream who.key).head? = some first := by rw [hstream, List.head?_cons]
    have howner := h.owner who first hfirst
    by_cases hnobody : first.resourceOwner = ""
    · simp [belongsToOther, howner, hnobody]
    · cases hnamed : who.owner? with
      | none => simp [belongsToOther, hnamed]
      | some owner =>
        have hsame : owner = first.resourceOwner := hopen first hfirst hnobody owner hnamed
        simp [belongsToOther, hnamed, howner, hsame]

/-- In a stream that is open to the writer, an append is refused only by its condition. -/
theorem Headed.perform_of_error (h : s.Headed) (hopen : s.Open who) {fault : Error}
    (hcheck : condition.check (s.stream who.key) = .error fault) :
    s.perform (.push now who condition pending) = (.refused fault, s) := by
  refine perform_of_push_error ?_
  simp [Store.push, h.belongsToOther_of_open hopen, hcheck]

/-- In a stream that is open to the writer, an append on which the condition holds goes through, or
is broken off for want of room. -/
theorem Headed.perform_of_ok (h : s.Headed) (hopen : s.Open who)
    (hcheck : condition.check (s.stream who.key) = .ok ()) (now : Instant)
    (pending : List PendingEvent) :
    (s.HasRoom who.key pending.length ∧
        ∃ appended s', s.perform (.push now who condition pending) = (.events appended, s') ∧
          s.Grows who.key pending appended s') ∨
      (¬ s.HasRoom who.key pending.length ∧
        s.perform (.push now who condition pending) = (.brokenOff, s)) := by
  have hmine := h.belongsToOther_of_open hopen
  by_cases hroom : s.HasRoom who.key pending.length
  · obtain ⟨appended, s', hpush⟩ := exists_push hmine hcheck hroom now
    exact .inl ⟨hroom, appended, s', perform_of_push hpush, grows_of_push hpush⟩
  · have hpush : s.push now who condition pending = .overflow :=
      push_eq_overflow_iff.mpr ⟨hmine, hcheck, hroom⟩
    exact .inr ⟨hroom, perform_of_push_overflow hpush⟩

/-! ### Who is let in -/

/-- **Who is let in, who is not, and why.** A stream may have been imported and appended to in any
way, and is open to the writer. The append goes through just if nothing that the writer's query
selects lies past the writer's position, the query has seen that position, and there is room for the
events. If only room is missing, the append is broken off. If something lies past the position, the
append is refused with the position of the last event that is selected. In both cases everything
that the store is asked later is answered as if the append had not been tried. And what the query
does not select takes no part in that: wherever else the query selects the same events of the
stream, the writer is refused for the same reason, or not refused as well. -/
theorem append_as_asked (hs : s.Grown) (hopen : s.Open who) (now : Instant) (condition : Condition)
    (pending : List PendingEvent) :
    ((∃ appended s', s.perform (.push now who condition pending) = (.events appended, s') ∧
        s.Grows who.key pending appended s') ↔
      condition.Clear (s.stream who.key) ∧ condition.Anchored (s.stream who.key) ∧
        s.HasRoom who.key pending.length) ∧
    (condition.Clear (s.stream who.key) → condition.Anchored (s.stream who.key) →
      ¬ s.HasRoom who.key pending.length →
      ∀ later, s.serve (.push now who condition pending :: later) =
        (.brokenOff :: (s.serve later).1, (s.serve later).2)) ∧
    (¬ condition.Clear (s.stream who.key) →
      ∃ last ∈ s.stream who.key, condition.query.selects last = true ∧
        (∀ e ∈ s.stream who.key, condition.query.selects e = true →
          e.position ≤ last.position) ∧
        ∀ later, s.serve (.push now who condition pending :: later) =
          (.refused (.conflict condition.position last.position) :: (s.serve later).1,
            (s.serve later).2)) ∧
    ∀ other : Store, other.Grown → other.Open who →
      (other.stream who.key).filter condition.query.selects =
        (s.stream who.key).filter condition.query.selects →
      ∀ fault, (other.perform (.push now who condition pending)).1 = .refused fault ↔
        (s.perform (.push now who condition pending)).1 = .refused fault := by
  refine ⟨?_, fun hclear hanchored hfull later => ?_, fun hblocked => ?_,
    fun other hother hopen' hsame fault => ?_⟩
  · rw [← and_assoc, ← Condition.check_eq_ok_iff_clear]
    constructor
    · rintro ⟨appended, s', hperform, -⟩
      cases hcheck : condition.check (s.stream who.key) with
      | ok =>
        rcases hs.headed.perform_of_ok hopen hcheck now pending with ⟨hroom, -⟩ | ⟨-, hbroken⟩
        · exact ⟨rfl, hroom⟩
        · rw [hbroken] at hperform
          cases hperform
      | error fault =>
        rw [hs.headed.perform_of_error hopen hcheck] at hperform
        cases hperform
    · rintro ⟨hcheck, hroom⟩
      rcases hs.headed.perform_of_ok hopen hcheck now pending with ⟨-, hgrown⟩ | ⟨hfull, -⟩
      · exact hgrown
      · exact absurd hroom hfull
  · have hcheck := Condition.check_eq_ok_iff_clear.mpr ⟨hclear, hanchored⟩
    rcases hs.headed.perform_of_ok hopen hcheck now pending with ⟨hroom, -⟩ | ⟨-, hbroken⟩
    · exact absurd hroom hfull
    · rw [serve_cons, hbroken]
  · obtain ⟨last, hlast, hsel, hmax, hcheck⟩ := Condition.exists_last_of_not_clear hblocked
    refine ⟨last, hlast, hsel, hmax, fun later => ?_⟩
    rw [serve_cons, hs.headed.perform_of_error hopen hcheck]
  · -- Both stores put the same question to the events that are selected.
    have hcheck := Condition.check_congr hsame
    cases hverdict : condition.check (s.stream who.key) with
    | error first =>
      rw [hs.headed.perform_of_error hopen hverdict,
        hother.headed.perform_of_error hopen' (hcheck.trans hverdict)]
    | ok =>
      have hnever : ∀ x : Store, x.Headed → x.Open who →
          condition.check (x.stream who.key) = .ok () →
          (x.perform (.push now who condition pending)).1 ≠ .refused fault := by
        intro x hx hopen hcheck
        rcases hx.perform_of_ok hopen hcheck now pending with
          ⟨-, appended, s', hperform, -⟩ | ⟨-, hperform⟩ <;> rw [hperform] <;> nofun
      exact iff_of_false (hnever other hother.headed hopen' (hcheck.trans hverdict))
        (hnever s hs.headed hopen hverdict)

/-- A session with a kind of event, in the middle and at its end, that not every writer knows. -/
def forwardLog : List Event :=
  let stored (position : UInt64) (kind : String) : Event :=
    PendingEvent.stored ⟨kind, .null, ""⟩ ⟨sessionType, "s"⟩ "org" position .epoch
  [stored 1 "session.added", stored 2 "session.otp", stored 4 "session.added",
    stored 7 "session.otp"]

/-- The store of that log. -/
def forwardStore : Store := ⟨forwardLog, [(⟨sessionType, "s"⟩, ⟨7, "org"⟩)]⟩

/-- A condition of a writer that knows openings only. -/
def onOpenings (position : UInt64) : Condition :=
  ⟨{ kinds := ["session.added"] }, position⟩

theorem grown_forwardStore : forwardStore.Grown := ⟨forwardLog, forwardStore, [], rfl, rfl⟩

theorem open_forwardStore : forwardStore.Open (.session "s" (some "org")) := by
  intro first hfirst _ owner howner
  cases hfirst
  exact (Option.mem_some.mp howner).symm

/-- The writer is let in behind the events that it does not know, and is refused where it has missed
an opening. -/
theorem append_as_asked_forwardStore :
    forwardStore.Grown ∧ forwardStore.Open (.session "s" (some "org")) ∧
      (∃ appended s', forwardStore.perform
          (.push .epoch (.session "s" (some "org")) (onOpenings 4) [⟨"a", .null, ""⟩]) =
            (.events appended, s') ∧
        forwardStore.Grows ⟨sessionType, "s"⟩ [⟨"a", .null, ""⟩] appended s') ∧
      ¬ (onOpenings 2).Clear (forwardStore.stream ⟨sessionType, "s"⟩) ∧
      (forwardStore.serve
        [.push .epoch (.session "s" (some "org")) (onOpenings 2) [⟨"a", .null, ""⟩]]).1 =
          [.refused (.conflict 2 4)] := by
  have hclear : (onOpenings 4).Clear (forwardStore.stream ⟨sessionType, "s"⟩) := by decide
  have hanchored : (onOpenings 4).Anchored (forwardStore.stream ⟨sessionType, "s"⟩) := by decide
  have hblocked : ¬ (onOpenings 2).Clear (forwardStore.stream ⟨sessionType, "s"⟩) := by decide
  have hfour : ∀ last ∈ forwardStore.stream ⟨sessionType, "s"⟩,
      (onOpenings 2).query.selects last = true →
      (∀ e ∈ forwardStore.stream ⟨sessionType, "s"⟩, (onOpenings 2).query.selects e = true →
        e.position ≤ last.position) → last.position = 4 := by decide
  obtain ⟨last, hlast, hsel, hmax, hrefused⟩ :=
    (append_as_asked grown_forwardStore open_forwardStore .epoch (onOpenings 2)
      [⟨"a", .null, ""⟩]).2.2.1 hblocked
  refine ⟨grown_forwardStore, open_forwardStore, ?_, hblocked, ?_⟩
  · exact (append_as_asked grown_forwardStore open_forwardStore .epoch (onOpenings 4) _).1.mpr
      ⟨hclear, hanchored, by decide⟩
  · have hnow := congrArg Prod.fst (hrefused [])
    rw [hfour last hlast hsel hmax] at hnow
    exact hnow

/-- A writer with nothing in its way that is turned away: its position is that of the last event of
the stream, and its query selects nothing past the opening before that. -/
theorem refused_ahead :
    forwardStore.Grown ∧ forwardStore.Open (.session "s" (some "org")) ∧
      (onOpenings 7).Clear (forwardStore.stream ⟨sessionType, "s"⟩) ∧
      (∃ e ∈ forwardStore.stream ⟨sessionType, "s"⟩, e.position = (onOpenings 7).position ∧
        (onOpenings 7).query.selects e = false) ∧
      (forwardStore.perform
        (.push .epoch (.session "s" (some "org")) (onOpenings 7) [⟨"a", .null, ""⟩])).1 =
          .refused (.conflict 7 4) := by
  have hclear : (onOpenings 7).Clear (forwardStore.stream ⟨sessionType, "s"⟩) := by decide
  exact ⟨grown_forwardStore, open_forwardStore, hclear,
    ⟨forwardLog[3], by decide, rfl, by decide⟩, rfl⟩

end Store

end SessionLedger
