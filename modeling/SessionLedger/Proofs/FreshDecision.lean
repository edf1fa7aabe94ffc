import SessionLedger.Proofs.SharedLog

/-!
# Decisions on current models

A call decides on a model that it loaded some steps ago, and others may have written to the log in
between. What a call knows about the log is therefore only that its model was the model of some
beginning of it. The condition of the append makes up the difference: when the store admits it, the
model of the beginning is the model of the whole log.

## Main definitions

* `Call.Saw`, `Call.Decides`, `Decision.LeadsTo` — what a call has loaded, what it decided on that,
  and which events come of the decision
* `Caller.Sound` — what holds of a call, in each phase of its course

## Main results

* `Caller.Sound.of_moves` — what holds of a call stays so when it moves
* `World.sound_of_caller` — it holds of every call in every run
* `World.append_on_current_model` — no decision is appended on a stale model
-/

namespace SessionLedger

/-! ### What holds of a call -/

/-- The call may have loaded the model: it is the model of a beginning of the log. -/
def Call.Saw (c : Call) (log : List Event) (m : Model) : Prop :=
  ∃ past, past <+: log ∧ Model.ofLog c.sessionId c.resourceOwner past = .ok m

/-- The command of the call decides so on the model, at some instant and with some identifiers. -/
def Call.Decides (c : Call) (m : Model) (d : Decision) : Prop :=
  ∃ now minted, c.command.decide now minted m = d

/-- The events come of the decision, after what the verifier was asked last. -/
def Decision.LeadsTo (asked : Option Consultation) (events : List SessionEvent) : Decision → Prop
  | .refuse _ => False
  | .append decided | .ifVacant decided => events = decided
  | .consult check => ∃ v, asked = some ⟨check, .ok v⟩ ∧ check.conclude v = .ok events

/-- What holds of a call at a log. -/
def Caller.Sound (log : List Event) (c : Caller) : Prop :=
  match c.call.phase with
  | .loading | .done _ => True
  | .claiming m events => c.call.Saw log m ∧ c.call.Decides m (.ifVacant events)
  | .verifying m check => c.call.Saw log m ∧ c.call.Decides m (.consult check)
  | .appending m events => c.call.Saw log m ∧
      (∃ d, c.call.Decides m d ∧ d.LeadsTo c.asked events) ∧
      events ≠ [] ∧ ∀ e ∈ events, e.faults = []

theorem Call.Saw.mono {c : Call} {log log' : List Event} {m : Model} (h : c.Saw log m)
    (hlog : log <+: log') : c.Saw log' m := by
  obtain ⟨past, hpast, hload⟩ := h
  exact ⟨past, hpast.trans hlog, hload⟩

namespace Call

variable {c : Call} {m : Model} {events : List SessionEvent}

theorem validateAll_eq_ok_iff :
    validateAll events = .ok () ↔ ∀ e ∈ events, e.faults = [] := by
  induction events with
  | nil => simp [validateAll, pure, Except.pure]
  | cons e events ih =>
    have hcons : validateAll (e :: events) = e.validate.bind fun _ => validateAll events := rfl
    rw [hcons, List.forall_mem_cons, ← ih, ← SessionEvent.validate_eq_ok_iff]
    cases e.validate <;> simp [Except.bind]

/-- A call that has its events has nothing to append, or a fault among them, or goes on to append
them. -/
theorem settle_eq (c : Call) (m : Model) (events : List SessionEvent) :
    (events = [] ∧ c.settle m events = c.finish (.ok ⟨m, c.attempt, false⟩)) ∨
      (∃ e, validateAll events = .error e ∧ c.settle m events = c.finish (.error e)) ∨
      (events ≠ [] ∧ (∀ e ∈ events, e.faults = []) ∧
        c.settle m events = { c with phase := .appending m events }) := by
  rw [settle]
  split
  · next hempty => exact .inl ⟨by simpa using hempty, rfl⟩
  · next hnonempty =>
    cases hvalid : validateAll events with
    | error e => exact .inr (.inl ⟨e, rfl, rfl⟩)
    | ok => exact .inr (.inr ⟨by simpa using hnonempty, validateAll_eq_ok_iff.mp hvalid, rfl⟩)

/-- A call that has its events goes on to append them, or is at its end. -/
theorem settle_cases (c : Call) (m : Model) (events : List SessionEvent) :
    (∃ r, c.settle m events = c.finish r) ∨
      (events ≠ [] ∧ (∀ e ∈ events, e.faults = []) ∧
        c.settle m events = { c with phase := .appending m events }) := by
  rcases c.settle_eq m events with ⟨-, hnothing⟩ | ⟨e, -, hfault⟩ | happending
  · exact .inl ⟨_, hnothing⟩
  · exact .inl ⟨_, hfault⟩
  · exact .inr happending

/-- A call whose append has failed begins its next attempt, or is at its end. -/
theorem afterAppend_error_cases (c : Call) (m : Model) (e : Error) :
    (∃ r, c.afterAppend m (.error e) = c.finish r) ∨
      (c.triesAgain e = true ∧
        c.afterAppend m (.error e) = { c with attempt := c.attempt + 1, phase := .loading }) := by
  simp only [afterAppend]
  split
  · next htries =>
    rcases c.again_cases with ⟨-, hend⟩ | ⟨-, hagain⟩
    · exact .inl ⟨_, hend⟩
    · exact .inr ⟨htries, hagain⟩
  · exact .inl ⟨_, rfl⟩

end Call

namespace Caller

variable {log log' : List Event} {c : Caller} {m : Model} {events : List SessionEvent}

theorem sound_finish (log : List Event) (c : Call) (r : Completion Outcome)
    (asked : Option Consultation) : Caller.Sound log ⟨c.finish r, asked⟩ :=
  trivial

theorem sound_settle {c : Call} {asked : Option Consultation} {d : Decision} (hsaw : c.Saw log m)
    (hd : c.Decides m d) (hleads : d.LeadsTo asked events) :
    Caller.Sound log ⟨c.settle m events, asked⟩ := by
  rcases c.settle_cases m events with ⟨r, hr⟩ | ⟨hnonempty, hvalid, hsettle⟩
  · rw [hr]
    exact sound_finish log c r asked
  · rw [hsettle]
    exact ⟨hsaw, ⟨d, hd, hleads⟩, hnonempty, hvalid⟩

theorem sound_follow {c : Call} {d : Decision} (asked : Option Consultation) (hsaw : c.Saw log m)
    (hd : c.Decides m d) : Caller.Sound log ⟨c.follow m d, asked⟩ := by
  cases d with
  | refuse refusal => exact sound_finish log c _ asked
  | append events => exact sound_settle hsaw hd rfl
  | ifVacant events => exact ⟨hsaw, hd⟩
  | consult check => exact ⟨hsaw, hd⟩

namespace Sound

theorem mono (h : c.Sound log) (hlog : log <+: log') : c.Sound log' := by
  unfold Sound at h ⊢
  split at h
  · trivial
  · trivial
  · exact ⟨h.1.mono hlog, h.2⟩
  · exact ⟨h.1.mono hlog, h.2⟩
  · exact ⟨h.1.mono hlog, h.2⟩

theorem of_appending (h : c.Sound log) (hphase : c.call.phase = .appending m events) :
    c.call.Saw log m ∧ (∃ d, c.call.Decides m d ∧ d.LeadsTo c.asked events) ∧
      events ≠ [] ∧ ∀ e ∈ events, e.faults = [] := by
  rw [Sound, hphase] at h
  exact h

theorem of_rejected (log : List Event) (c : Call) (m : Model) (e : Error)
    (asked : Option Consultation) : Caller.Sound log ⟨c.afterAppend m (.error e), asked⟩ := by
  rcases c.afterAppend_error_cases m e with ⟨r, hend⟩ | ⟨-, hagain⟩
  · rw [hend]
    exact sound_finish log c r asked
  · rw [hagain]
    trivial

theorem of_appended (log : List Event) (c : Call) (m : Model) (appended : List Event)
    (asked : Option Consultation) : Caller.Sound log ⟨c.afterAppend m (.ok appended), asked⟩ := by
  simp only [Call.afterAppend]
  split
  · exact sound_finish log c _ asked
  · exact sound_finish log c _ asked

/-- What holds of a call stays so when it moves. -/
theorem of_moves {s : Store} {moment : Moment} {c' : Caller} (h : c.Sound s.log)
    (hmoves : c.Moves s moment c') : c'.Sound s.log := by
  cases hmoves with
  | load hphase =>
    rw [Call.afterLoad]
    split
    · next m hload =>
      have hsaw : c.call.Saw s.log m := ⟨s.log, List.prefix_rfl, hload⟩
      exact sound_follow c.asked hsaw ⟨_, _, rfl⟩
    · exact sound_finish s.log c.call _ c.asked
  | @claim m events hphase =>
    rw [Sound, hphase] at h
    rw [Call.afterClaim]
    by_cases hvacant : 0 < s.latest m.identity.key
    · simp only [hvacant, if_true]
      exact sound_finish s.log c.call _ c.asked
    · simp only [hvacant, if_false]
      exact sound_settle h.1 h.2 rfl
  | @verify m check hphase =>
    rw [Sound, hphase] at h
    cases hverdict : moment.verdict check with
    | error e => exact sound_finish s.log c.call _ _
    | ok v =>
      rw [Call.afterVerdict]
      cases hconclude : check.conclude v with
      | error refusal => exact sound_finish s.log c.call _ _
      | ok events => exact sound_settle h.1 h.2 ⟨v, rfl, hconclude⟩
  | reject hphase hpush => exact of_rejected s.log c.call _ _ c.asked
  | breakOff hphase hpush => exact sound_finish s.log c.call .overflow c.asked
  | rest hphase => exact h

end Sound

end Caller

/-! ### Every run -/

namespace World

/-- In every run each call has seen a beginning of the log, and appends only what it decided on. -/
theorem sound_of_caller (acts : List Act) {caller : Caller} (h : caller ∈ (after acts).callers) :
    caller.Sound (after acts).store.log := by
  refine after_invariant (P := fun w => ∀ c ∈ w.callers, c.Sound w.store.log) (by simp)
    (fun past a w' _ ih hev c hc => ?_) caller h
  have hmono : ∀ c ∈ (after past).callers, c.Sound w'.store.log :=
    fun c hc => (ih c hc).mono hev.log_prefix
  cases hev with
  | enter =>
    rcases List.mem_append.mp hc with hc | hc
    · exact ih c hc
    · rw [List.mem_singleton.mp hc]
      trivial
  | idle => exact ih c hc
  | move hcaller hmoves =>
    rcases List.mem_or_eq_of_mem_set hc with hc | rfl
    · exact ih c hc
    · exact (ih _ (List.mem_of_getElem? hcaller)).of_moves hmoves
  | append hcaller hphase hpush =>
    rcases List.mem_or_eq_of_mem_set hc with hc | rfl
    · exact hmono c hc
    · exact Caller.Sound.of_appended _ _ _ _ _
  | foreign hpush => exact hmono c hc

/-- **No decision is appended on a stale model.** However the calls went before, when the store
admits the append of a call, the model that the call decided on is the one that loading its session
would give at that moment, with the owner that the call named. -/
theorem append_on_current_model (acts : List Act) {number : Nat} {caller : Caller} {m : Model}
    {events : List SessionEvent} {now : Instant} {appended : List Event} {store : Store}
    (hcaller : (after acts).callers[number]? = some caller)
    (hphase : caller.call.phase = .appending m events)
    (hpush : (after acts).store.push now m.identity (.of m) (events.map SessionEvent.toPending) =
      .ok (appended, store)) :
    (after acts).store.load caller.call.sessionId caller.call.resourceOwner = .ok m ∧
      ∃ d, caller.call.Decides m d ∧ d.LeadsTo caller.asked events := by
  have hsound := sound_of_caller acts (List.mem_of_getElem? hcaller)
  obtain ⟨⟨past, hpast, hload⟩, hdecided, -⟩ := hsound.of_appending hphase
  obtain ⟨-, hcheck, -, -⟩ := Store.push_eq_ok_iff.mp hpush
  exact ⟨Store.load_of_check (sound_after acts) hpast hload hcheck, hdecided⟩

/-- A moment at which the verifier is content with everything. -/
def contentMoment : Moment := ⟨.epoch, ⟨"token", "nonce"⟩, fun _ => .ok ⟨true, true⟩⟩

/-- A session is opened on behalf of an owner, and a second call, which names no owner, has loaded
it. -/
def takeover : List Act := [
  .start "s" (some "org") (.create none) 3,
  .step 0 contentMoment, .step 0 contentMoment, .step 0 contentMoment,
  .start "s" none (.checkUser "u" "") 3,
  .step 1 contentMoment]

theorem append_on_current_model_takeover :
    ∃ caller m events appended store,
      (after takeover).callers[1]? = some caller ∧ caller.call.phase = .appending m events ∧
      (after takeover).store.push .epoch m.identity (.of m) (events.map SessionEvent.toPending) =
        .ok (appended, store) ∧
      caller.call.resourceOwner = none ∧ m.identity.resourceOwner = some "org" ∧
      (after takeover).store.load caller.call.sessionId caller.call.resourceOwner = .ok m := by
  suffices h : ∃ caller m events appended store, (after takeover).callers[1]? = some caller ∧
      caller.call.phase = .appending m events ∧
      (after takeover).store.push .epoch m.identity (.of m) (events.map SessionEvent.toPending) =
        .ok (appended, store) ∧
      caller.call.resourceOwner = none ∧ m.identity.resourceOwner = some "org" by
    obtain ⟨caller, m, events, appended, store, hcaller, hphase, hpush, hnone, howner⟩ := h
    exact ⟨caller, m, events, appended, store, hcaller, hphase, hpush, hnone, howner,
      (append_on_current_model takeover hcaller hphase hpush).1⟩
  exact ⟨_, _, _, _, _, rfl, rfl, rfl, rfl, rfl⟩

end World

end SessionLedger
