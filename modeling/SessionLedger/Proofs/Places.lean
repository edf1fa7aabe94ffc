import SessionLedger.Proofs.Ownership

/-!
# Forgetting places

Where an event stands in its stream depends on what else was written there, and events of kinds
that no session knows count too. This module says what is left when places are forgotten: an event
at no place in particular, a model without its position, a result without the positions in it. Two
things are alike when nothing but places tells them apart.

The gist of a log is what sessions can tell of it. Sound stores whose logs have the same gist give
models that are alike, and a model that was loaded from a beginning of the log meets its condition
just if the gist of the rest has nothing for it. So neither loads nor conditions depend on the
places themselves.

## Main definitions

* `Event.unplaced`, `Error.unplaced`, `Model.unplaced`, `withoutPlaces` — things without places
* `Event.isKnown`, `gist` — what sessions can tell of a log

## Main results

* `alike_cases` — results are alike as values or as errors
* `Model.fold_alike` — folding events that are alike gives results that are alike
* `Store.load_alike` — so does loading from logs with the same gist
* `Store.check_iff_gist` — a model's condition is about the gist of what came after the model
-/

namespace SessionLedger

/-! ### What is left -/

/-- The event at the first place of a stream, wherever it stands. -/
def Event.unplaced (e : Event) : Event := { e with position := 1 }

/-- The error with no positions in it. -/
def Error.unplaced : Error → Error
  | conflict _ _ => conflict 0 0
  | malformed kind _ reason => malformed kind 0 reason
  | e => e

/-- The model without its position. -/
def Model.unplaced (m : Model) : Model := { m with position := 0 }

/-- A result whose value is taken without places, or whose error has none. -/
def withoutPlaces {α β : Type} (unplaced : α → β) : Except Error α → Except Error β
  | .ok a => .ok (unplaced a)
  | .error e => .error e.unplaced

/-- The event is of a kind that a session knows. -/
def Event.isKnown (e : Event) : Bool := (SessionEvent.Kind.ofName? e.kind).isSome

/-- What sessions can tell of a log: its events of known kinds, at no place in particular. -/
def gist (log : List Event) : List Event := (log.map Event.unplaced).filter Event.isKnown

/-- Results are alike if both are values that are alike, or both are errors that are. -/
theorem alike_cases {α β : Type} {unplaced : α → β} {r r' : Except Error α}
    (h : withoutPlaces unplaced r = withoutPlaces unplaced r') :
    (∃ a a', r = .ok a ∧ r' = .ok a' ∧ unplaced a = unplaced a') ∨
      ∃ e e', r = .error e ∧ r' = .error e' ∧ e.unplaced = e'.unplaced := by
  cases r with
  | ok a =>
    cases r' with
    | ok a' => exact .inl ⟨a, a', rfl, rfl, Except.ok.inj h⟩
    | error e' => cases h
  | error e =>
    cases r' with
    | ok a' => cases h
    | error e' => exact .inr ⟨e, e', rfl, rfl, Except.error.inj h⟩

/-- Events are alike if they are the same event at two places. -/
theorem Event.exists_position {e e' : Event} (h : e.unplaced = e'.unplaced) :
    ∃ position, e' = { e with position := position } := by
  refine ⟨e'.position, ?_⟩
  cases e
  cases e'
  simp_all [unplaced]

/-- Models are alike if they are the same model at two positions. -/
theorem Model.exists_position {m m' : Model} (h : m.unplaced = m'.unplaced) :
    ∃ position, m' = { m with position := position } := by
  refine ⟨m'.position, ?_⟩
  cases m
  cases m'
  simp_all [unplaced]

section Gist

variable {events events' : List Event}

theorem gist_append (log more : List Event) : gist (log ++ more) = gist log ++ gist more := by
  simp [gist]

theorem gist_congr (h : events.map Event.unplaced = events'.map Event.unplaced) :
    gist events = gist events' := by
  rw [gist, gist, h]

/-- Events of unknown kinds are not in the gist. -/
theorem gist_of_unknown (h : ∀ e ∈ events, SessionEvent.Kind.ofName? e.kind = none) :
    gist events = [] := by
  refine List.filter_eq_nil_iff.mpr fun e he => ?_
  obtain ⟨stored, hstored, rfl⟩ := List.mem_map.mp he
  have hkind : SessionEvent.Kind.ofName? stored.unplaced.kind = none := h stored hstored
  simp [Event.isKnown, hkind]

end Gist

/-! ### Folding -/

/-- What an event adds to the facts does not depend on its place. -/
theorem Facts.apply_alike (f : Facts) (e : Event) (position : UInt64) :
    withoutPlaces id (f.apply { e with position := position }) = withoutPlaces id (f.apply e) := by
  cases hkind : SessionEvent.Kind.ofName? e.kind with
  | none =>
    have hkind' : SessionEvent.Kind.ofName? { e with position := position }.kind = none := hkind
    rw [apply_of_unknown hkind, apply_of_unknown hkind']
  | some kind =>
    cases hdata : SessionEvent.ofPayload kind (SessionEvent.storedPayload e.data) with
    | error mismatch =>
      simp [apply, SessionEvent.decode, hkind, hdata, bind, Except.bind, withoutPlaces,
        Error.unplaced]
    | ok event =>
      by_cases hvalid : event.faults.isEmpty = true
      · cases hrecord : f.record e.createdAt event <;>
          simp [apply, SessionEvent.decode, hkind, hdata, hvalid, hrecord, bind, Except.bind,
            withoutPlaces, Error.unplaced]
      · simp [apply, SessionEvent.decode, hkind, hdata, hvalid, bind, Except.bind, withoutPlaces,
          Error.unplaced]

namespace Model

variable {m m' : Model} {events events' : List Event}

/-- Folding events that are alike, in the order of their positions, gives results that are alike. -/
theorem fold_alike (hm : m.unplaced = m'.unplaced)
    (hevents : events.map Event.unplaced = events'.map Event.unplaced)
    (hpast : ∀ e ∈ events, m.position < e.position)
    (hinc : events.Pairwise fun e e' => e.position < e'.position)
    (hpast' : ∀ e ∈ events', m'.position < e.position)
    (hinc' : events'.Pairwise fun e e' => e.position < e'.position) :
    withoutPlaces unplaced (m.fold events) = withoutPlaces unplaced (m'.fold events') := by
  induction events generalizing m m' events' with
  | nil =>
    obtain rfl : events' = [] := by simpa using hevents.symm
    exact congrArg Except.ok hm
  | cons e events ih =>
    obtain ⟨e', rest, rfl, hhead, hrest⟩ := List.map_eq_cons_iff.mp hevents.symm
    obtain ⟨place, rfl⟩ := Event.exists_position hhead.symm
    obtain ⟨position, rfl⟩ := exists_position hm
    obtain ⟨hlt, hinc⟩ := List.pairwise_cons.mp hinc
    obtain ⟨hlt', hinc'⟩ := List.pairwise_cons.mp hinc'
    rw [fold_cons, fold_cons, step_of_lt (hpast e List.mem_cons_self),
      step_of_lt (hpast' _ List.mem_cons_self)]
    obtain ⟨f', f, h', h, hf⟩ | ⟨fault', fault, h', h, hfault⟩ :=
      alike_cases (m.facts.apply_alike e place)
    · obtain rfl : f' = f := hf
      rw [h, h']
      exact ih (m := { m.mark e with facts := f' }) rfl hrest.symm hlt hinc hlt' hinc'
    · rw [h, h']
      exact congrArg Except.error hfault.symm

/-! ### Selecting -/

/-- What a model selects of a log is what it selects of the gist. -/
theorem map_unplaced_filter (m : Model) {log : List Event} (hpos : ∀ e ∈ log, 0 < e.position) :
    (log.filter m.query.selects).map Event.unplaced = (gist log).filter m.query.selects := by
  have hplace : ∀ e ∈ log, m.query.selects e = m.query.selects e.unplaced := fun e he => by
    rw [Bool.eq_iff_iff, selects_iff, selects_iff]
    simp [Event.unplaced, Event.key, hpos e he]
  have hknown : ∀ e ∈ log.map Event.unplaced,
      m.query.selects e = (m.query.selects e && e.isKnown) := fun e _ => by
    rw [Bool.eq_iff_iff, Bool.and_eq_true, Event.isKnown, Option.isSome_iff_exists]
    exact ⟨fun h => ⟨h, (selects_iff.mp h).2.2.1⟩, And.left⟩
  rw [List.filter_congr hplace, gist, List.filter_filter, ← List.filter_congr hknown,
    List.filter_map]
  rfl

end Model

/-- What a command leads to does not depend on places. -/
theorem Command.decide_alike (command : Command) (now : Instant) (minted : Minted) {m m' : Model}
    (h : m.unplaced = m'.unplaced) :
    command.decide now minted m = command.decide now minted m' := by
  obtain ⟨position, rfl⟩ := Model.exists_position h
  cases command <;> rfl

/-! ### Loading -/

namespace Store

open Model

variable {s s' : Store} {sessionId : String} {resourceOwner : Option String} {m : Model}
  {past more : List Event}

/-- What a model selects of a store is in the order of the positions. -/
theorem Sound.increasing_selected (hs : s.Sound) (m : Model) :
    (s.log.filter m.query.selects).Pairwise fun e e' => e.position < e'.position := by
  have hstream : s.log.filter m.query.selects =
      (s.stream ⟨sessionType, m.sessionId⟩).filter m.query.selects := by
    rw [stream, List.filter_filter]
    refine List.filter_congr fun e _ => ?_
    rw [Bool.eq_iff_iff, Bool.and_eq_true, beq_iff_eq]
    exact ⟨fun h => ⟨h, (selects_iff.mp h).1⟩, And.left⟩
  rw [hstream]
  exact (hs.increasing _).filter _

/-- **Loading does not depend on places.** Stores whose logs have the same gist give models that are
alike, or the same fault. -/
theorem load_alike (hs : s.Sound) (hs' : s'.Sound) (hgist : gist s.log = gist s'.log)
    (sessionId : String) (resourceOwner : Option String) :
    withoutPlaces Model.unplaced (s.load sessionId resourceOwner) =
      withoutPlaces Model.unplaced (s'.load sessionId resourceOwner) := by
  rw [load, load, ofLog_eq_fold, ofLog_eq_fold]
  refine fold_alike rfl ?_ (fun e he => hs.pos_of_mem (List.mem_filter.mp he).1)
    (hs.increasing_selected _) (fun e he => hs'.pos_of_mem (List.mem_filter.mp he).1)
    (hs'.increasing_selected _)
  rw [map_unplaced_filter _ fun _ => hs.pos_of_mem, map_unplaced_filter _ fun _ => hs'.pos_of_mem,
    hgist]

/-! ### Conditions -/

/-- **A condition is about the gist of what came later.** A model that was loaded from a beginning
of the log meets its condition just if the gist of the rest has nothing for it. -/
theorem check_iff_gist (hs : s.Sound) (hlog : past ++ more = s.log)
    (hload : ofLog sessionId resourceOwner past = .ok m) :
    (Condition.of m).check (s.stream m.identity.key) = .ok () ↔
      (gist more).filter m.query.selects = [] := by
  have hpos : ∀ e ∈ more, 0 < e.position :=
    fun e he => hs.pos_of_mem (hlog ▸ List.mem_append_right past he)
  rw [check_iff hs hlog hload, ← map_unplaced_filter m hpos, List.map_eq_nil_iff]

end Store

end SessionLedger
