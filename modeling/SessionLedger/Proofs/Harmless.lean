import SessionLedger.Proofs.FreshDecision
import SessionLedger.Proofs.History

/-!
# Calls do no harm

An event that cannot be folded would block its session for good: every later load would fail on it.
And a call that fails after its append would report that nothing was done while its event is in the
log. Neither happens, because what is appended was validated before, and for a valid event there is
one reason only why its fold could fail: a lifetime that leads out of the range of instants. The
lifetimes that validation admits do not lead so far, unless the clock stands near the end of that
range.

## Main definitions

* `Moment.Early`, `Act.Early` — the clock is far enough from its end
* `Event.Folds` — an event that no facts refuse

## Main results

* `Instant.exists_addSeconds` — a short span leads to an instant
* `Facts.exists_record` — valid events are recorded while it is early
* `World.folds_of_mem_log` — every event in the log folds
* `World.calls_do_no_harm` — every session can be loaded, and calls that fail have left nothing
-/

namespace SessionLedger

/-! ### The end of time -/

namespace Instant

/-- Whole seconds since 1970. -/
def seconds (t : Instant) : Int := t.day * 86400 + t.second

/-- The last second. -/
def lastSecond : Int := lastDay * 86400 + 86399

theorem exists_addSeconds {t : Instant} {span : Int} (hpos : 0 < span)
    (hlast : t.seconds + span ≤ lastSecond) : ∃ u, t.addSeconds span = some u := by
  have hday := t.day_ge
  simp only [seconds, lastSecond] at hlast
  rw [addSeconds_of_pos t hpos]
  exact exists_ofParts? ⟨by omega, by omega⟩ (by omega) (Nat.mod_lt _ (by decide))

end Instant

/-- The longest lifetime that begins now ends in the range of instants. -/
def Instant.Early (t : Instant) : Prop := t.seconds + Limits.lifetimeSeconds ≤ lastSecond

instance (t : Instant) : Decidable t.Early :=
  inferInstanceAs (Decidable (t.seconds + Limits.lifetimeSeconds ≤ Instant.lastSecond))

/-! ### Folding -/

theorem SessionEvent.lifetime_mem {seconds : Int64} (h : (lifetimeSet seconds).faults = []) :
    1 ≤ seconds.toInt ∧ seconds.toInt ≤ Limits.lifetimeSeconds := by
  by_contra hout
  rw [faults, if_neg hout] at h
  cases h

/-- A valid event is recorded while it is early. -/
theorem Facts.exists_record (f : Facts) {e : SessionEvent} {now : Instant} (hvalid : e.faults = [])
    (hearly : now.Early) : ∃ f', f.record now e = some f' := by
  cases e with
  | lifetimeSet seconds =>
    obtain ⟨hmin, hmax⟩ := SessionEvent.lifetime_mem hvalid
    have hlast : now.seconds + Limits.lifetimeSeconds ≤ Instant.lastSecond := hearly
    obtain ⟨expiration, hexpiration⟩ : ∃ u, now.addSeconds seconds.toInt = some u :=
      Instant.exists_addSeconds (by omega) (by omega)
    exact ⟨_, by rw [record, Instant.bind_after, hexpiration]; rfl⟩
  | _ => exact ⟨_, rfl⟩

/-- Whatever is known of a session, the event can be folded. -/
def Event.Folds (stored : Event) : Prop := ∀ f : Facts, ∃ f', f.apply stored = .ok f'

namespace Event

variable {stored : Event}

theorem folds_of_unknown (h : SessionEvent.Kind.ofName? stored.kind = none) : stored.Folds :=
  fun f => ⟨f, Facts.apply_of_unknown h f⟩

theorem folds_of_carries {e : SessionEvent} (h : stored.Carries e)
    (hearly : stored.createdAt.Early) : stored.Folds := by
  intro f
  obtain ⟨-, -, hvalid⟩ := SessionEvent.decode_eq_some_iff.mp h
  obtain ⟨f', hf'⟩ := f.exists_record hvalid hearly
  exact ⟨f', Facts.apply_eq_ok_iff.mpr (.inr ⟨e, h, hf'⟩)⟩

end Event

theorem Model.exists_fold {events : List Event} (hfolds : ∀ e ∈ events, e.Folds) (m : Model) :
    ∃ m', m.fold events = .ok m' := by
  induction events generalizing m with
  | nil => exact ⟨m, rfl⟩
  | cons e events ih =>
    obtain ⟨he, hfolds⟩ := List.forall_mem_cons.mp hfolds
    have hstep : ∃ next, m.step e = .ok next := by
      obtain ⟨f, hf⟩ := he m.facts
      by_cases hnew : m.position < e.position
      · exact ⟨_, step_eq_ok_iff.mpr (.inr ⟨hnew, f, hf, rfl⟩)⟩
      · exact ⟨m, step_eq_ok_iff.mpr (.inl ⟨UInt64.not_lt.mp hnew, rfl⟩)⟩
    obtain ⟨next, hnext⟩ := hstep
    obtain ⟨m', hm'⟩ := ih hfolds next
    exact ⟨m', fold_cons_eq_ok_iff.mpr ⟨next, hnext, hm'⟩⟩

/-- Valid events that are appended early fold. -/
theorem Store.folds_of_push {s s' : Store} {now : Instant} {who : Identity} {condition : Condition}
    {events : List SessionEvent} {appended : List Event} (hvalid : ∀ e ∈ events, e.faults = [])
    (hearly : now.Early)
    (hpush : s.push now who condition (events.map SessionEvent.toPending) = .ok (appended, s')) :
    ∀ stored ∈ appended, stored.Folds := by
  intro stored hmem
  obtain ⟨e, he⟩ := exists_carries_of_push hvalid hpush stored hmem
  obtain ⟨-, -, hplace, -⟩ := push_eq_ok_iff.mp hpush
  exact Event.folds_of_carries he ((key_of_mem_place hplace hmem).2.2.symm ▸ hearly)

/-! ### Every run -/

/-- The clock of the act is far from its end. What others append needs no clock. -/
def Act.Early : Act → Prop
  | .step _ moment => moment.now.Early
  | .start .. | .foreign .. => True

instance : (a : Act) → Decidable a.Early
  | .step _ moment => inferInstanceAs (Decidable moment.now.Early)
  | .start .. | .foreign .. => inferInstanceAs (Decidable True)

namespace World

variable {acts : List Act}

/-- Every event in the log folds, if it was early all along. -/
theorem folds_of_mem_log (hearly : ∀ a ∈ acts, a.Early) :
    ∀ stored ∈ (after acts).store.log, stored.Folds := by
  refine after_invariant (P := fun w => ∀ stored ∈ w.store.log, stored.Folds)
    (by simp [Store.empty]) fun past a w' hpast ih hev stored hmem => ?_
  have ha : a.Early := hearly a (hpast.subset (by simp))
  cases hev with
  | enter | idle | move => exact ih stored hmem
  | append hcaller hphase hpush =>
    have hsound := sound_of_caller past (List.mem_of_getElem? hcaller)
    obtain ⟨-, -, -, hvalid⟩ := hsound.of_appending hphase
    rcases List.mem_append.mp ((Store.push_log hpush).1 ▸ hmem) with hmem | hmem
    · exact ih stored hmem
    · exact Store.folds_of_push hvalid ha hpush stored hmem
  | @foreign now who condition batch appended store hpush =>
    rcases List.mem_append.mp ((Store.push_log hpush).1 ▸ hmem) with hmem | hmem
    · exact ih stored hmem
    · exact Event.folds_of_unknown (ForeignBatch.unknown_of_push hpush stored hmem)

theorem exists_load (hearly : ∀ a ∈ acts, a.Early) (sessionId : String)
    (resourceOwner : Option String) :
    ∃ m, (after acts).store.load sessionId resourceOwner = .ok m := by
  rw [Store.load, Model.ofLog_eq_fold]
  refine Model.exists_fold (fun e he => ?_) _
  exact folds_of_mem_log hearly e (List.mem_filter.mp he).1

/-- Once the store has admitted what a call appends, the call goes well. -/
theorem exists_loaded {number : Nat} {caller : Caller} {m : Model} {events : List SessionEvent}
    {now : Instant} {appended : List Event} {store : Store}
    (hcaller : (after acts).callers[number]? = some caller)
    (hphase : caller.call.phase = .appending m events) (hearly : now.Early)
    (hpush : (after acts).store.push now m.identity (.of m) (events.map SessionEvent.toPending) =
      .ok (appended, store)) :
    ∃ m', m.loaded appended = .ok m' := by
  have hsound := sound_of_caller acts (List.mem_of_getElem? hcaller)
  obtain ⟨⟨past, -, hload⟩, -, -, hvalid⟩ := hsound.of_appending hphase
  rw [Model.loaded_of_empty (Model.buffer_of_ofLog hload)]
  exact Model.exists_fold (Store.folds_of_push hvalid hearly hpush) m

/-- Only calls that have ended well have entries in the ledger. -/
theorem ended_well_of_mem_ledger (hearly : ∀ a ∈ acts, a.Early) :
    ∀ x ∈ (after acts).ledger, ∀ o, x.origin = some o → ∃ caller outcome,
      (after acts).callers[o.number]? = some caller ∧ caller.call.phase = .done (.ok outcome) := by
  refine after_invariant (P := fun w => ∀ x ∈ w.ledger, ∀ o, x.origin = some o →
    ∃ caller outcome, w.callers[o.number]? = some caller ∧
      caller.call.phase = .done (.ok outcome)) (by simp) fun past a w' hpast ih hev x hx o ho => ?_
  have ha : a.Early := hearly a (hpast.subset (by simp))
  have hold : x ∈ (after past).ledger → ∃ caller outcome,
      w'.callers[o.number]? = some caller ∧ caller.call.phase = .done (.ok outcome) := by
    intro hx
    obtain ⟨caller, outcome, hcaller, hdone⟩ := ih x hx o ho
    exact ⟨caller, outcome, hev.caller_of_done hcaller hdone, hdone⟩
  cases hev with
  | enter | idle | move => exact hold hx
  | @append number moment caller m events appended store hcaller hphase hpush =>
    rcases List.mem_append.mp hx with hx | hx
    · exact hold hx
    · obtain ⟨stored, -, rfl⟩ := List.mem_map.mp hx
      cases ho
      obtain ⟨m', hm'⟩ := exists_loaded hcaller hphase ha hpush
      refine ⟨_, ⟨m', caller.call.attempt, true⟩,
        List.getElem?_set_self (List.getElem?_eq_some_iff.mp hcaller).1, ?_⟩
      simp only [Call.afterAppend, hm']
      rfl
  | foreign hpush =>
    rcases List.mem_append.mp hx with hx | hx
    · exact hold hx
    · obtain ⟨stored, -, rfl⟩ := List.mem_map.mp hx
      cases ho

/-- **Calls do no harm.** As long as the clock is far from its end, in every run: every session can
be loaded with every owner; no call that ends in an error has an entry in the ledger, which lists
the log; and once the store has admitted what a call appends, folding that does not fail. -/
theorem calls_do_no_harm (acts : List Act) (hearly : ∀ a ∈ acts, a.Early) :
    (∀ sessionId resourceOwner, ∃ m, (after acts).store.load sessionId resourceOwner = .ok m) ∧
      (after acts).ledger.map Entry.event = (after acts).store.log ∧
      (∀ (number : Nat) (caller : Caller) (e : Error),
        (after acts).callers[number]? = some caller →
        caller.call.phase = .done (.error e) →
        ∀ x ∈ (after acts).ledger, ∀ o, x.origin = some o → o.number ≠ number) ∧
      ∀ (number : Nat) (caller : Caller) (m : Model) (events : List SessionEvent) (now : Instant)
        (appended : List Event) (store : Store),
        (after acts).callers[number]? = some caller → caller.call.phase = .appending m events →
        now.Early →
        (after acts).store.push now m.identity (.of m) (events.map SessionEvent.toPending) =
          .ok (appended, store) →
        ∃ m', m.loaded appended = .ok m' := by
  refine ⟨exists_load hearly, after_ledger acts, fun number caller e hcaller hphase x hx o ho => ?_,
    fun number caller m events now appended store => exists_loaded⟩
  rintro rfl
  obtain ⟨caller', outcome, hcaller', hdone⟩ := ended_well_of_mem_ledger hearly x hx o ho
  rw [hcaller] at hcaller'
  obtain rfl := Option.some.inj hcaller'
  rw [hphase] at hdone
  cases hdone

/-- The last second in which the longest lifetime can begin. -/
def lastChance : Moment where
  now := { day := Instant.lastDay - 3650, second := 86399, nanos := 999999999 }
  minted := ⟨"token", "nonce"⟩
  verdict _ := .ok ⟨true, true⟩

/-- In that second a session is opened and gets the longest lifetime, and another call tries in
vain to open it again. -/
def latestLifetime : List Act :=
  .start "s" (some "org") (.create none) 0 :: List.replicate 3 (.step 0 lastChance) ++
  .start "s" none (.setLifetime 315360000) 0 :: List.replicate 2 (.step 1 lastChance) ++
  [.start "s" none (.create none) 0, .step 2 lastChance]

theorem calls_do_no_harm_latestLifetime :
    (∀ a ∈ latestLifetime, a.Early) ∧
      ∃ caller e, (after latestLifetime).callers[2]? = some caller ∧
        caller.call.phase = .done (.error e) ∧
        (∃ m, (after latestLifetime).store.load "s" none = .ok m) ∧
        ∀ x ∈ (after latestLifetime).ledger, ∀ o, x.origin = some o → o.number ≠ 2 := by
  have hearly : ∀ a ∈ latestLifetime, a.Early := by decide
  obtain ⟨hload, -, htrace, -⟩ := calls_do_no_harm latestLifetime hearly
  have hcaller : (after latestLifetime).callers[2]? = some _ := rfl
  exact ⟨hearly, _, _, hcaller, rfl, hload "s" none, htrace 2 _ _ hcaller rfl⟩

end World

end SessionLedger
