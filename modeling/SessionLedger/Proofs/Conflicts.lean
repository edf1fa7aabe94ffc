import SessionLedger.Proofs.Importing
import SessionLedger.Proofs.LoneCall

/-!
# Conflicts without anybody else

A conflict tells a writer that somebody else was there in the meantime, and that another attempt may
help. A call that is left alone should therefore never be in conflict, whatever store it works on.

There are two ways in which a store turns a writer away. It compares the writer's position with the
last event that the writer's query selects, and it compares the writer's owner with the owner of the
stream. Both the query and the owner are those of the model as it is after loading, and the model
may have taken over an owner in between. In stores that only calls have written to, this makes no
difference, as each stream has one owner. But an imported stream may have several. Then a call may
see events of an owner to whom the stream does not belong, and what it appends is turned away by
design. So a call is never in conflict if the stream was begun by the owner for whom it acts, or by
nobody, and the event at which its model stands is that owner's.

## Main definitions

* `Store.Undisputed` — what those see of a session who act for an owner is that owner's
* `Caller.Calm` — a call in its first attempt that has not met a conflict

## Main results

* `Store.observed_of_load` — a model that is loaded finds its own position
* `Store.Headed.exists_push` — whoever has just loaded an undisputed session may append
* `World.no_conflict_after` — in stores that only calls have written to, a call alone is not in
  conflict
* `World.refused_of_other` — by design, who acts for another than the stream's owner changes nothing
* `World.conflicts_need_others` — nor is it in imported ones, if the session is undisputed
* `World.conflict_alone` — but it may be if the stream is another's
-/

namespace SessionLedger

/-! ### Errors that no other attempt helps -/

theorem Event.isRetryable_fault {stored : Event} {fault : Error} (h : stored.fault? = some fault) :
    fault.isRetryable = false := by
  have hdecode : ∀ e, SessionEvent.decode stored = .error e → e.isRetryable = false := by
    intro e he
    rw [SessionEvent.decode] at he
    split at he
    · cases he
    · split at he
      · cases he
        rfl
      · split at he <;> cases he
        rfl
  rw [Event.fault?] at h
  split at h
  · next hfault => exact Option.some.inj h ▸ hdecode _ hfault
  · cases h
  · split at h <;> cases h
    rfl

/-- A fold never fails with a conflict. -/
theorem Model.isRetryable_fold {m : Model} {events : List Event} {fault : Error}
    (h : m.fold events = .error fault) : fault.isRetryable = false := by
  induction events generalizing m with
  | nil => cases h
  | cons e events ih =>
    rw [fold_cons] at h
    by_cases hnew : m.position < e.position
    · rw [step_of_lt hnew, Facts.apply_eq] at h
      cases hfault : e.fault? with
      | some first =>
        rw [hfault] at h
        cases h
        exact Event.isRetryable_fault hfault
      | none =>
        rw [hfault] at h
        exact ih h
    · rw [step_of_le (UInt64.not_lt.mp hnew)] at h
      exact ih h

theorem Call.isRetryable_validateAll {events : List SessionEvent} {fault : Error}
    (h : validateAll events = .error fault) : fault.isRetryable = false := by
  induction events with
  | nil => cases h
  | cons e events ih =>
    have hcons : validateAll (e :: events) = e.validate.bind fun _ => validateAll events := rfl
    rw [hcons, SessionEvent.validate] at h
    split at h
    · exact ih h
    · cases h
      rfl

/-! ### Calls that have not met a conflict -/

/-- The call is in its first attempt, and if it is at its end, it has not come there by a
conflict. -/
structure Caller.Calm (c : Caller) : Prop where
  first : c.call.attempt = 1
  failed : ∀ fault, c.call.phase = .done (.error fault) → fault.isRetryable = false
  succeeded : ∀ outcome, c.call.phase = .done (.ok outcome) → outcome.attempts = 1

namespace Caller

variable {c : Call} {asked : Option Consultation} {m : Model} {events : List SessionEvent}

theorem calm_fail {fault : Error} (h : c.attempt = 1) (hfault : fault.isRetryable = false) :
    Caller.Calm ⟨c.finish (.error fault), asked⟩ where
  first := h
  failed _ hdone := by cases hdone; exact hfault
  succeeded _ hdone := by cases hdone

theorem calm_succeed {outcome : Outcome} (h : c.attempt = 1)
    (hattempts : outcome.attempts = c.attempt) :
    Caller.Calm ⟨c.finish (.ok outcome), asked⟩ where
  first := h
  failed _ hdone := by cases hdone
  succeeded _ hdone := by cases hdone; exact hattempts.trans h

theorem calm_break (h : c.attempt = 1) : Caller.Calm ⟨c.finish .overflow, asked⟩ where
  first := h
  failed _ hdone := by cases hdone
  succeeded _ hdone := by cases hdone

theorem calm_of_moving {c : Caller} (h : c.call.attempt = 1)
    (hmoving : ∀ r, c.call.phase ≠ .done r) : c.Calm where
  first := h
  failed _ hdone := absurd hdone (hmoving _)
  succeeded _ hdone := absurd hdone (hmoving _)

theorem calm_settle (h : c.attempt = 1) (m : Model) (events : List SessionEvent) :
    Caller.Calm ⟨c.settle m events, asked⟩ := by
  rcases c.settle_eq m events with ⟨-, hnothing⟩ | ⟨e, hinvalid, hfault⟩ | ⟨-, -, hsettle⟩
  · rw [hnothing]
    exact calm_succeed h rfl
  · rw [hfault]
    exact calm_fail h (Call.isRetryable_validateAll hinvalid)
  · rw [hsettle]
    exact calm_of_moving h (by simp)

theorem calm_follow (h : c.attempt = 1) (m : Model) (d : Decision) :
    Caller.Calm ⟨c.follow m d, asked⟩ := by
  cases d with
  | refuse refusal => exact calm_fail h refusal.isRetryable_error
  | append events => exact calm_settle h m events
  | ifVacant events => exact calm_of_moving h (by simp [Call.follow])
  | consult check => exact calm_of_moving h (by simp [Call.follow])

/-- A step keeps a call calm, unless its append is turned away or the verifier claims a conflict. -/
theorem Calm.of_moves {s : Store} {moment : Moment} {c next : Caller} (h : c.Calm)
    (hverifier : ∀ check fault, moment.verdict check = .error fault → fault.isRetryable = false)
    (hadmits : ∀ m events, c.call.phase = .appending m events → ∀ fault,
      s.push moment.now m.identity (.of m) (events.map SessionEvent.toPending) ≠ .error fault)
    (hmoves : c.Moves s moment next) : next.Calm := by
  cases hmoves with
  | load =>
    rw [Call.afterLoad]
    split
    · exact calm_follow h.first ..
    · next fault hfault =>
      have hfold : c.call.fresh.fold (s.filter c.call.fresh.query) = .error fault := by
        rw [← Model.loaded_of_empty rfl]
        exact hfault
      exact calm_fail h.first (Model.isRetryable_fold hfold)
  | claim =>
    rw [Call.afterClaim]
    split
    · exact calm_fail h.first (Refusal.isRetryable_error _)
    · exact calm_settle h.first ..
  | @verify m check =>
    cases hverdict : moment.verdict check with
    | error fault => exact calm_fail h.first (hverifier check fault hverdict)
    | ok v =>
      rw [Call.afterVerdict]
      split
      · exact calm_settle h.first ..
      · exact calm_fail h.first (Refusal.isRetryable_error _)
  | reject hphase hpush => exact absurd hpush (hadmits _ _ hphase _)
  | breakOff hphase hpush => exact calm_break h.first
  | rest => exact h

/-- A call whose append was admitted is at its end, and has not met a conflict. -/
theorem Calm.appended {c : Caller} (h : c.Calm) (hempty : m.buffer = []) (appended : List Event) :
    Caller.Calm ⟨c.call.afterAppend m (.ok appended), c.asked⟩ := by
  simp only [Call.afterAppend]
  split
  · exact calm_succeed h.first rfl
  · next fault hfault =>
    rw [Model.loaded_of_empty hempty] at hfault
    exact calm_fail h.first (Model.isRetryable_fold hfault)

end Caller

/-! ### Appending after loading -/

namespace Store

variable {s : Store} {sessionId : String} {resourceOwner : Option String} {m : Model}

/-- What those see of the session who load it on behalf of the owner, if they see anything, and then
act for somebody: the stream was begun by the one for whom they act, or by nobody, and the event at
which their model stands is that owner's. -/
def Undisputed (s : Store) (sessionId : String) (resourceOwner : Option String) : Prop :=
  ∀ m, s.load sessionId resourceOwner = .ok m → ∀ owner ∈ m.identity.owner?,
    ∀ e ∈ s.filter (Model.new sessionId resourceOwner).query,
      (∀ first ∈ (s.stream e.key).head?,
        first.resourceOwner = "" ∨ first.resourceOwner = owner) ∧
        (e.position = m.position → e.resourceOwner = owner)

/-- **A model finds its own position.** The condition of a model that has just been loaded is met,
if the event at which the model stands is of the owner for whom it acts. -/
theorem observed_of_load (hload : s.load sessionId resourceOwner = .ok m)
    (hstands : ∀ owner ∈ m.identity.owner?,
      ∀ e ∈ s.filter (Model.new sessionId resourceOwner).query,
        e.position = m.position → e.resourceOwner = owner) :
    (Condition.of m).observed (s.stream m.identity.key) = m.position := by
  refine observed_eq (List.append_nil s.log) hload (fun e he hsel hposition => ?_) (by simp)
  obtain ⟨hkey, -, hkind, hpos⟩ := Model.selects_iff.mp hsel
  have hfiltered : e ∈ s.filter (Model.new sessionId resourceOwner).query := by
    rw [Store.filter, Model.run_query]
    exact List.mem_filter.mpr ⟨he, hsel⟩
  exact Model.selects_iff.mpr
    ⟨hkey.trans (congrArg _ (StreamKey.mk.inj (Model.key_of_ofLog hload)).2.symm),
      fun owner hnamed => (hstands owner hnamed e hfiltered hposition).symm, hkind, hpos⟩

/-- The stream of an undisputed session does not belong to somebody other than those who have just
loaded it. If the session has not begun, its stream has to be vacant. -/
theorem Headed.admits (hs : s.Headed) (hown : s.Undisputed sessionId resourceOwner)
    (hload : s.load sessionId resourceOwner = .ok m)
    (hvacant : m.facts.state = .uninitialized → s.latest m.identity.key = 0) :
    belongsToOther (s.headFor m.identity) m.identity = false := by
  cases howner : m.identity.owner? with
  | none => simp [belongsToOther, howner]
  | some owner =>
    have hseen := hown m hload owner howner
    rw [Store.filter, Model.run_query] at hseen
    have hfold := hload
    rw [Store.load, Model.ofLog_eq_fold] at hfold
    cases hevents : s.log.filter (Model.new sessionId resourceOwner).query.selects with
    | nil =>
      rw [hevents] at hfold
      cases hfold
      have hposition : (s.headFor (Model.new sessionId resourceOwner).identity).position = 0 := by
        rw [position_headFor, hvacant rfl]
      simp [belongsToOther, hposition]
    | cons e rest =>
      have he : e ∈ s.log.filter (Model.new sessionId resourceOwner).query.selects :=
        hevents ▸ List.mem_cons_self
      obtain ⟨hmem, hsel⟩ := List.mem_filter.mp he
      have hkey : e.key = m.identity.key :=
        (Model.selects_iff.mp hsel).1.trans (Model.key_of_ofLog hload).symm
      obtain ⟨first, hfirst⟩ : ∃ first, (s.stream m.identity.key).head? = some first :=
        ⟨_, List.head?_eq_some_head (List.ne_nil_of_mem (mem_stream.mpr ⟨hmem, hkey⟩))⟩
      have hbegun := (hseen e he).1 first (hkey ▸ hfirst)
      rw [← hs.owner m.identity first hfirst] at hbegun
      rcases hbegun with hnobody | hmine
      · simp [belongsToOther, hnobody]
      · simp [belongsToOther, howner, hmine]

/-- **Whoever has just loaded an undisputed session is not turned away.** -/
theorem Headed.push_ne_error (hs : s.Headed) (hown : s.Undisputed sessionId resourceOwner)
    (hload : s.load sessionId resourceOwner = .ok m)
    (hvacant : m.facts.state = .uninitialized → s.latest m.identity.key = 0) (now : Instant)
    (pending : List PendingEvent) (fault : Error) :
    s.push now m.identity (.of m) pending ≠ .error fault := by
  have hcheck : (Condition.of m).check (s.stream m.identity.key) = .ok () :=
    Condition.check_eq_ok_iff.mpr
      (observed_of_load hload fun owner howner e he => (hown m hload owner howner e he).2)
  exact Store.push_ne_error (hs.admits hown hload hvacant) hcheck now pending fault

/-- In a sound store nothing is disputed: each stream has one owner. -/
theorem Sound.undisputed (hs : s.Sound) (sessionId : String) (resourceOwner : Option String) :
    s.Undisputed sessionId resourceOwner := by
  intro m hload owner howner e he
  rw [Store.filter, Model.run_query] at he
  obtain ⟨hmem, hsel⟩ := List.mem_filter.mp he
  have hselected : m.query.selects e = true := by
    rw [selects_eq_new hs List.prefix_rfl hload hmem]
    exact hsel
  have hmine : e.resourceOwner = owner := ((Model.selects_iff.mp hselected).2.1 owner howner).symm
  refine ⟨fun first hfirst => .inr ?_, fun _ => hmine⟩
  rw [← hmine]
  exact hs.owner_eq (List.mem_of_head? hfirst) (mem_stream.mpr ⟨hmem, rfl⟩)

end Store

/-! ### Every run on an imported log -/

namespace World

/-- In every run on an imported log, writers find a stream with the owner of its first event. -/
theorem headed_foldl {w : World} (h : w.store.Headed) (acts : List Act) :
    (acts.foldl act w).store.Headed := by
  induction acts generalizing w with
  | nil => exact h
  | cons a acts ih =>
    refine ih ?_
    generalize hw' : w.act a = w'
    have hev : w.Evolves a w' := hw' ▸ evolves_act w a
    cases hev with
    | enter | idle | move => exact h
    | append hcaller hphase hpush => exact h.push hpush
    | foreign hpush => exact h.push hpush

/-- A call that is left alone on an undisputed session stays calm. -/
theorem calm_of_undisputed {w : World} {errand : Errand} (hs : w.store.Headed)
    (hown : w.store.Undisputed errand.sessionId errand.resourceOwner)
    (hverifier : ∀ moment ∈ errand.moments, ∀ check fault,
      moment.verdict check = .error fault → fault.isRetryable = false) :
    ∃ last, (w.carryOut errand).callers[w.callers.length]? = some last ∧
      last.call.request = errand.call.request ∧ last.Calm := by
  -- After its append a call is at its end, and it no longer matters that the store has changed.
  suffices h : ∃ last, (w.carryOut errand).callers[w.callers.length]? = some last ∧
      last.call.request = errand.call.request ∧ last.Calm ∧
      ((w.carryOut errand).store = w.store ∧ last.Alone w.store ∨
        ∃ r, last.call.phase = .done r) by
    obtain ⟨last, hlast, hrequest, hcalm, -⟩ := h
    exact ⟨last, hlast, hrequest, hcalm⟩
  refine carryOut_induction (P := fun s c => c.call.request = errand.call.request ∧ c.Calm ∧
    (s = w.store ∧ c.Alone w.store ∨ ∃ r, c.call.phase = .done r))
    ⟨rfl, Caller.calm_of_moving rfl (by simp [Errand.call]), .inl ⟨rfl, trivial⟩⟩ ?_
  rintro moment hmoment s c s' c' ⟨hrequest, hcalm, h⟩ hsteps
  refine ⟨hsteps.request_eq.trans hrequest, ?_⟩
  rcases h with ⟨rfl, halone⟩ | ⟨r, hdone⟩
  · cases hsteps with
    | move hmoves =>
      refine ⟨hcalm.of_moves (hverifier moment hmoment) (fun m events hphase => ?_) hmoves,
        .inl ⟨rfl, halone.of_moves hmoves⟩⟩
      have hresolved := halone.resolved hphase
      have hload := hresolved.loaded
      rw [Call.sessionId_eq hrequest, Call.resourceOwner_eq hrequest] at hload
      exact hs.push_ne_error hown hload hresolved.vacant moment.now _
    | append hphase =>
      have hempty := Model.buffer_of_ofLog (halone.resolved hphase).loaded
      refine ⟨hcalm.appended hempty _, .inr ?_⟩
      simp only [Call.afterAppend]
      split <;> exact ⟨_, rfl⟩
  · cases hsteps with
    | move hmoves =>
      rw [hmoves.eq_of_done hdone]
      exact ⟨hcalm, .inr ⟨r, hdone⟩⟩
    | append hphase =>
      rw [hphase] at hdone
      cases hdone

/-- **By design, who acts for another than the stream's owner changes nothing.** A call that is left
alone on a stream that was begun by somebody else than the owner for whom it acts leaves the store
as it is, whatever of the stream it sees. -/
theorem refused_of_other {w : World} {errand : Errand} (hs : w.store.Headed) {first : Event}
    (hfirst : (w.store.stream ⟨sessionType, errand.sessionId⟩).head? = some first)
    (hlatest : 0 < w.store.latest ⟨sessionType, errand.sessionId⟩)
    (hother : ∀ m, w.store.load errand.sessionId errand.resourceOwner = .ok m →
      ∃ owner, m.identity.owner? = some owner ∧ first.resourceOwner ≠ "" ∧
        first.resourceOwner ≠ owner) :
    (w.carryOut errand).store = w.store := by
  obtain ⟨last, -, hrequest, hcases⟩ := w.carryOut_cases errand
  rcases hcases with ⟨hsame, -⟩ | ⟨moment, -, m, events, appended, hresolved, hpush, -⟩
  · exact hsame
  · have hload := hresolved.loaded
    rw [Call.sessionId_eq hrequest, Call.resourceOwner_eq hrequest] at hload
    obtain ⟨owner, howner, hsomebody, hne⟩ := hother m hload
    have hkey : m.identity.key = ⟨sessionType, errand.sessionId⟩ := Model.key_of_ofLog hload
    have hadmitted := (Store.push_eq_ok_iff.mp hpush).1
    rw [Store.belongsToOther, Store.position_headFor, hs.owner m.identity first (hkey ▸ hfirst),
      howner, hkey] at hadmitted
    simp [hlatest, hsomebody, hne.symm] at hadmitted

/-- In stores that only calls have written to, nothing is disputed: a call that is left alone after
any run does not end in a conflict, and if it ends well it has needed a single attempt. -/
theorem no_conflict_after (acts : List Act) (errand : Errand)
    (hverifier : ∀ moment ∈ errand.moments, ∀ check fault, moment.verdict check = .error fault →
      fault.isRetryable = false) :
    ∃ last, ((after acts).carryOut errand).callers[(after acts).callers.length]? = some last ∧
      last.call.request = errand.call.request ∧ last.Calm :=
  calm_of_undisputed (sound_after acts).headed ((sound_after acts).undisputed _ _) hverifier

/-- **Conflicts need others.** After any run on any imported log, a call is carried out while nobody
else does anything, on a session that is undisputed for those who load it as the call does. If the
verifier does not claim a conflict, the call does not end in one, and if it ends well it has needed
a single attempt. -/
theorem conflicts_need_others {log : List Event} {imported : Store}
    (himport : Store.ofEvents log = .ok imported) (acts : List Act) (errand : Errand)
    (hown : (acts.foldl act { store := imported }).store.Undisputed errand.sessionId
      errand.resourceOwner)
    (hverifier : ∀ moment ∈ errand.moments, ∀ check fault, moment.verdict check = .error fault →
      fault.isRetryable = false) :
    ∃ last, ((acts.foldl act { store := imported }).carryOut errand).callers[
        (acts.foldl act { store := imported }).callers.length]? = some last ∧
      last.call.request = errand.call.request ∧
      (∀ expected actual, last.call.phase ≠ .done (.error (.conflict expected actual))) ∧
      ∀ outcome, last.call.phase = .done (.ok outcome) → outcome.attempts = 1 := by
  obtain ⟨-, -, hindexed⟩ := Store.of_ofEvents himport
  obtain ⟨last, hlast, hrequest, hcalm⟩ :=
    calm_of_undisputed (headed_foldl (w := { store := imported }) hindexed.headed acts) hown
      hverifier
  refine ⟨last, hlast, hrequest, fun expected actual hdone => ?_, hcalm.succeeded⟩
  exact absurd (hcalm.failed _ hdone) Bool.noConfusion

/-- An event of the session as it is exported. -/
def exported (owner : String) (position : UInt64) (e : SessionEvent) : Event :=
  e.toPending.stored ⟨sessionType, "s"⟩ owner position .epoch

/-- A session of which one event is not its owner's. -/
def guestLog : List Event :=
  [exported "org" 2 (.added none), exported "rival" 3 (.tokenSet "r"),
    exported "org" 7 (.tokenSet "t")]

/-- The store of that log. -/
def guestStore : Store := ⟨guestLog, [(⟨sessionType, "s"⟩, ⟨7, "org"⟩)]⟩

theorem conflicts_need_others_guest :
    Store.ofEvents guestLog = .ok guestStore ∧ guestStore.Undisputed "s" none ∧
      (∀ moment ∈ (tokenErrand none 2).moments, ∀ check fault,
        moment.verdict check = .error fault → fault.isRetryable = false) ∧
      ∃ last outcome,
        (carryOut { store := guestStore } (tokenErrand none 2)).callers[0]? = some last ∧
        last.call.phase = .done (.ok outcome) ∧ outcome.changed = true ∧
        outcome.attempts = 1 := by
  have himport : Store.ofEvents guestLog = .ok guestStore := rfl
  have hown : guestStore.Undisputed "s" none := by
    intro m hm
    cases hm
    decide
  have hverifier : ∀ moment ∈ (tokenErrand none 2).moments, ∀ check fault,
      moment.verdict check = .error fault → fault.isRetryable = false := by
    intro moment hmoment check fault hverdict
    rw [List.eq_of_mem_replicate hmoment] at hverdict
    cases hverdict
  have hreports : ∀ last,
      (carryOut { store := guestStore } (tokenErrand none 2)).callers[0]? = some last →
      ∃ outcome, last.call.phase = .done (.ok outcome) ∧ outcome.changed = true := by
    intro last hlast
    cases hlast
    exact ⟨_, rfl, rfl⟩
  obtain ⟨last, hlast, -, -, hattempts⟩ :=
    conflicts_need_others himport [] (tokenErrand none 2) hown hverifier
  obtain ⟨outcome, hdone, hchanged⟩ := hreports last hlast
  exact ⟨himport, hown, hverifier, last, outcome, hlast, hdone, hchanged, hattempts outcome hdone⟩

/-- A session that was begun by one owner, and has an event of another, who has opened it too. -/
def sharedLog : List Event := [exported "org" 1 (.added none), exported "rival" 2 (.added none)]

/-- **A conflict with nobody.** The other sees the session that they have opened, and may act on it.
But the stream is not theirs: each of their attempts is turned away, and there is nobody else. -/
theorem conflict_alone :
    ∃ imported last, Store.ofEvents sharedLog = .ok imported ∧
      (∀ moment ∈ (tokenErrand (some "rival") 8).moments, ∀ check fault,
        moment.verdict check ≠ .error fault) ∧
      (carryOut { store := imported } (tokenErrand (some "rival") 8)).callers[0]? = some last ∧
      last.call.request = (tokenErrand (some "rival") 8).call.request ∧
      last.call.phase = .done (.error (.conflict 2 2)) := by
  refine ⟨_, _, rfl, fun moment hmoment check fault hverdict => ?_, rfl, rfl, rfl⟩
  rw [List.eq_of_mem_replicate hmoment] at hverdict
  cases hverdict

end World

end SessionLedger
