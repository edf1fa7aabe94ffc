import SessionLedger.Proofs.Delivery
import SessionLedger.Proofs.Harmless
import SessionLedger.Proofs.Provenance

/-!
# Catching up

A model that was loaded some time ago may be loaded again. It asks the log once more, and with its
own query, which is not the query that a fresh model asks with if the model has taken over an owner
in between; and the answer brings back all that the model has folded before, and then what is new.

Neither makes a difference. In a sound store the two queries select the same events, because a
stream has one owner. What comes back lies at or before the position of the model, which passes over
it. So the model folds just what is new, and comes to where a fresh model comes that folds
everything.

## Main results

* `Store.fold_filter_query` — a model that is loaded again from a longer log becomes the fresh one
* `World.catches_up` — and so it is at any two moments of a run
-/

namespace SessionLedger

/-- A model of a beginning of the log that folds what its own query selects becomes the model that
is loaded from the whole log, or fails as loading that fails. -/
theorem Store.fold_filter_query {s : Store} (hs : s.Sound) {past : List Event}
    (hpast : past <+: s.log) {sessionId : String} {resourceOwner : Option String} {m : Model}
    (hload : Model.ofLog sessionId resourceOwner past = .ok m) :
    m.fold (s.filter m.query) = s.load sessionId resourceOwner := by
  have hselects : s.filter m.query =
      s.log.filter (Model.new sessionId resourceOwner).query.selects := by
    rw [Store.filter, Model.run_query]
    exact List.filter_congr fun e he => selects_eq_new hs hpast hload he
  obtain ⟨more, hlog⟩ := hpast
  rw [Model.ofLog_eq_fold] at hload
  have hold := (Model.le_position_of_fold hload).2
  rw [hselects, Store.load, Model.ofLog_eq_fold, ← hlog, List.filter_append, Model.fold_append,
    Model.fold_append, hload, Model.fold_of_le hold]

namespace World

/-- **A model catches up.** At any two moments of a run in which it was early all along, and for
every session and owner: the model that was loaded at the one is loaded again at the other without
a fault, and then is, in all that it knows, the model that is loaded afresh at the other. -/
theorem catches_up (acts : List Act) (hearly : ∀ a ∈ acts, a.Early) {past : List Act}
    (hpast : past <+: acts) (sessionId : String) (resourceOwner : Option String) :
    ∃ m m', (after past).store.load sessionId resourceOwner = .ok m ∧
      (after acts).store.load sessionId resourceOwner = .ok m' ∧
      ∀ d : Desk, d.store = (after acts).store →
        Desk.surroundings.load m d = ((.ok (), m'), d) := by
  have hearly' : ∀ a ∈ past, a.Early := fun a ha => hearly a (hpast.subset ha)
  obtain ⟨m, hm⟩ := exists_load hearly' sessionId resourceOwner
  obtain ⟨m', hm'⟩ := exists_load hearly sessionId resourceOwner
  refine ⟨m, m', hm, hm', fun d hd => ?_⟩
  have hfold : m.fold (d.store.filter m.query) = .ok m' := by
    rw [hd, Store.fold_filter_query (sound_after acts) (log_mono hpast) hm, hm']
  have hload : m.load (d.store.filter m.query) = (.ok (), m') := by
    rw [Model.load_of_empty (Model.buffer_of_ofLog hm), hfold]
  simp [Surroundings.load, hload]

/-- The session of somebody is loaded on behalf of nobody in particular, and then the second call
appends what it has decided on. -/
def takenOver : List Act := takeover ++ [.step 1 contentMoment]

theorem catches_up_takenOver :
    (∀ a ∈ takenOver, a.Early) ∧ takeover <+: takenOver ∧
      ∃ m m', (after takeover).store.load "s" none = .ok m ∧ m.identity.owner? = some "org" ∧
        (after takenOver).store.load "s" none = .ok m' ∧ m'.facts.userId = some "u" ∧
        m.facts.userId = none ∧ ∀ d : Desk, d.store = (after takenOver).store →
          Desk.surroundings.load m d = ((.ok (), m'), d) := by
  have hearly : ∀ a ∈ takenOver, a.Early := by decide
  have hpast : takeover <+: takenOver := ⟨_, rfl⟩
  obtain ⟨m, m', hm, hm', hcaught⟩ := catches_up takenOver hearly hpast "s" none
  have howner : ∀ x, (after takeover).store.load "s" none = .ok x →
      x.identity.owner? = some "org" ∧ x.facts.userId = none := by
    intro x hx
    cases hx
    exact ⟨rfl, rfl⟩
  have huser : ∀ x, (after takenOver).store.load "s" none = .ok x →
      x.facts.userId = some "u" := by
    intro x hx
    cases hx
    rfl
  obtain ⟨howned, hnobody⟩ := howner m hm
  exact ⟨hearly, hpast, m, m', hm, howned, hm', huser m' hm', hnobody, hcaught⟩

end World

end SessionLedger
