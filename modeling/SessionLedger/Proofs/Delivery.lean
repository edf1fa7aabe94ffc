import SessionLedger.Proofs.Loading

/-!
# Deliveries

How events are cut into batches on their way to a model does not matter, and neither does it matter
if some come again. The first is because a fold goes through the batches as it goes through all
events at once. The second is because a model knows up to which position it has folded, and passes
over whatever lies at or before it without looking at what that is.

Nothing is assumed of the events: they may come in any order, and may be such that no session knows
them or can fold them.

## Main definitions

* `Model.loadEach` — loading batch by batch

## Main results

* `Model.fold_of_le` — events up to the position of a model are passed over
* `Model.loadEach_of_empty` — batch by batch, a model comes to what a fold of all events comes to
* `Model.delivery_irrelevant` — neither batches nor repeats matter
-/

namespace SessionLedger

namespace Model

variable {m m' : Model} {e : Event} {events : List Event}

/-- Loads events batch by batch, up to the first batch that fails: the result, and the model
afterwards. -/
def loadEach (m : Model) : List (List Event) → Except Error Unit × Model
  | [] => (.ok (), m)
  | batch :: batches =>
    match m.load batch with
    | (.ok (), m') => m'.loadEach batches
    | (.error fault, m') => (.error fault, m')

/-- Events up to the position of a model are passed over, whatever they are. -/
theorem fold_of_le (hold : ∀ e ∈ events, e.position ≤ m.position) : m.fold events = .ok m := by
  induction events with
  | nil => rfl
  | cons e events ih =>
    rw [fold_cons, step_of_le (hold e List.mem_cons_self)]
    exact ih fun e he => hold e (List.mem_cons_of_mem _ he)

/-- Batch by batch, a model comes to what a fold of all events comes to. If that fails, the model
keeps what it has folded of the batches before. -/
theorem loadEach_of_empty (hempty : m.buffer = []) (batches : List (List Event)) :
    (∀ fault, m.fold batches.flatten = .error fault → (m.loadEach batches).1 = .error fault) ∧
      ∀ m', m.fold batches.flatten = .ok m' → m.loadEach batches = (.ok (), m') := by
  induction batches generalizing m with
  | nil => exact ⟨nofun, fun m' h => by cases h; rfl⟩
  | cons batch batches ih =>
    rw [List.flatten_cons, fold_append, loadEach, load_of_empty hempty]
    cases hbatch : m.fold batch with
    | error first => exact ⟨fun fault h => by cases h; rfl, fun m' h => by cases h⟩
    | ok next => exact ih ((buffer_of_fold hbatch).trans hempty)

/-- Repeats of what was folded before, put in anywhere, change nothing. -/
theorem fold_insert {before repeats later : List Event}
    (hold : ∀ m', m.fold before = .ok m' → ∀ e ∈ repeats, e.position ≤ m'.position) :
    m.fold (before ++ repeats ++ later) = m.fold (before ++ later) := by
  rw [List.append_assoc, fold_append, fold_append]
  cases hbefore : m.fold before with
  | error fault => rfl
  | ok m' =>
    simp only [Except.bind]
    rw [fold_append, fold_of_le (hold m' hbefore)]
    rfl

/-- **Neither batches nor repeats matter.** With nothing in its buffer, a model that loads events
batch by batch is told what it is told when it loads them at once, success or the first fault, and
if it is success the models are the same. After a load that succeeded, events up to the position of
the model can be loaded again, in any number and order and whatever is in them, and the model stays
as it is; so put in anywhere in a delivery they change nothing. -/
theorem delivery_irrelevant (hempty : m.buffer = []) :
    (∀ batches, (m.loadEach batches).1 = (m.load batches.flatten).1 ∧
        ((m.load batches.flatten).1 = .ok () →
          (m.loadEach batches).2 = (m.load batches.flatten).2)) ∧
      (∀ events m', m.load events = (.ok (), m') →
        ∀ repeats, (∀ e ∈ repeats, e.position ≤ m'.position) → m'.load repeats = (.ok (), m')) ∧
      ∀ before repeats later,
        (∀ m', m.load before = (.ok (), m') → ∀ e ∈ repeats, e.position ≤ m'.position) →
          m.load (before ++ repeats ++ later) = m.load (before ++ later) := by
  have hload : ∀ {events m'}, m.load events = (.ok (), m') ↔ m.fold events = .ok m' := by
    intro events m'
    rw [load_of_empty hempty]
    cases m.fold events <;> simp
  refine ⟨fun batches => ?_, fun events m' hm' repeats hold => ?_,
    fun before repeats later hold => ?_⟩
  · obtain ⟨herror, hok⟩ := loadEach_of_empty hempty batches
    rw [load_of_empty hempty]
    cases hfold : m.fold batches.flatten with
    | error fault => exact ⟨herror fault hfold, nofun⟩
    | ok m' => rw [hok m' hfold]; exact ⟨rfl, fun _ => rfl⟩
  · have hempty' : m'.buffer = [] := (buffer_of_fold (hload.mp hm')).trans hempty
    rw [load_of_empty hempty', fold_of_le hold]
  · rw [load_of_empty hempty, load_of_empty hempty,
      fold_insert fun m' hm' => hold m' (hload.mpr hm')]

/-- A delivery in which the opening of a session comes a second time, and then an event that stands
at the same position and cannot be folded. -/
def redelivery : List (List Event) :=
  let stored (position : UInt64) (p : PendingEvent) : Event :=
    p.stored ⟨sessionType, "s"⟩ "org" position .epoch
  [ [stored 2 (SessionEvent.added none).toPending],
    [stored 2 (SessionEvent.added none).toPending, stored 1 ⟨"session.user.checked", .null, ""⟩],
    [stored 3 ⟨"session.otp", .null, ""⟩, stored 5 (SessionEvent.tokenSet "t").toPending] ]

theorem delivery_irrelevant_redelivery :
    (Model.new "s" none).buffer = [] ∧
      (Model.new "s" none).loadEach redelivery =
        (Model.new "s" none).load (redelivery[0] ++ redelivery[2]) ∧
      ((Model.new "s" none).loadEach redelivery).1 = .ok () := by
  have hempty : (Model.new "s" none).buffer = [] := rfl
  obtain ⟨hbatches, -, hinsert⟩ := delivery_irrelevant hempty
  obtain ⟨hresult, hmodel⟩ := hbatches redelivery
  have hok : ((Model.new "s" none).load redelivery.flatten).1 = .ok () := rfl
  have hrepeats : (Model.new "s" none).load redelivery.flatten =
      (Model.new "s" none).load (redelivery[0] ++ redelivery[2]) := by
    refine hinsert redelivery[0] redelivery[1] redelivery[2] fun m' hm' => ?_
    cases hm'
    decide
  rw [← hrepeats]
  exact ⟨hempty, Prod.ext hresult (hmodel hok), hresult.trans hok⟩

end Model

end SessionLedger
