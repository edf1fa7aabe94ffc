import SessionLedger.Proofs.Harmless
import SessionLedger.Proofs.LoneCall
import SessionLedger.Proofs.Operations
import SessionLedger.Proofs.Tenancy

/-!
# What a call reports

A call that goes well reports a model. It does not ask the log for it: it folds, on top of the model
that it has loaded, the events that the store gave back when it appended. Whoever loads the session
then asks the log, with a query of their own, and folds everything from the beginning.

Both come to the same model. For that, the query has to select every event that was appended: the
events have to be of kinds that a session knows, past position 0, and of the owner on whose behalf
the call was made. The last is not a matter of course, as the store gives events the owner of their
stream. A call that appends to a stream which exists has seen events of it, and therefore names the
stream's owner or none.

## Main results

* `Store.owner_of_resolved` — a call that names an owner appends events of that owner
* `Store.load_of_resolved` — loading after an append gives what the call makes of its events
* `Caller.Appended.reported` — what a call that has appended reports
* `World.outcome_told` — what a call reports is what the log says
-/

namespace SessionLedger

namespace Store

variable {s s' : Store} {c : Caller} {m : Model} {events : List SessionEvent} {now : Instant}
  {condition : Condition} {appended : List Event}

/-- A call that is left alone and names an owner appends events of that owner. -/
theorem owner_of_resolved (hs : s.Sound) (hwritten : s.Written) (h : c.Resolved s m events)
    (hpush : s.push now m.identity condition (events.map SessionEvent.toPending) =
      .ok (appended, s')) {owner : String} (hnamed : c.call.request.owner? = some owner) {e : Event}
    (he : e ∈ appended) : e.resourceOwner = owner := by
  have hkey : m.identity.key = ⟨sessionType, c.call.sessionId⟩ := Model.key_of_ofLog h.loaded
  rw [owner_of_mem_push hpush he]
  cases hhead : s.head? m.identity.key with
  | none =>
    have howner : m.identity.owner? = some owner := Model.owner_of_ofLog h.loaded hnamed
    simp [headFor, hhead, howner]
  | some head =>
    -- A stream in the index has events. The call was not let through to open a session there, so
    -- its session has begun, and it has seen some of them.
    obtain ⟨first, hfirst⟩ := List.exists_mem_of_ne_nil _ (hwritten _ head hhead)
    have hbegun : m.facts.state ≠ .uninitialized := by
      intro hstate
      have hlatest := hs.latest m.identity.key
      rw [h.vacant hstate] at hlatest
      rw [List.eq_nil_of_length_eq_zero hlatest.symm] at hfirst
      cases hfirst
    rw [← hs.owner_headFor hfirst]
    exact owner_of_begun hs h.loaded hbegun hnamed first (hkey ▸ hfirst)

/-- Loading a session after an append gives what the call makes of the events that it was given
back. -/
theorem load_of_resolved (hs : s.Sound) (hs' : s'.Sound) (hwritten : s.Written)
    (h : c.Resolved s m events)
    (hpush : s.push now m.identity condition (events.map SessionEvent.toPending) =
      .ok (appended, s')) :
    s'.load c.call.sessionId c.call.resourceOwner = m.loaded appended := by
  have hlog : s'.log = s.log ++ appended := (push_log hpush).1
  have hall : appended.filter
      (Model.new c.call.sessionId c.call.resourceOwner).query.selects = appended := by
    refine List.filter_eq_self.mpr fun e he => Model.selects_iff.mpr ⟨?_, ?_, ?_, ?_⟩
    · exact ((push_log hpush).2.2 e he).trans (Model.key_of_ofLog h.loaded)
    · exact fun owner hnamed => (owner_of_resolved hs hwritten h hpush hnamed he).symm
    · obtain ⟨event, hcarries⟩ := exists_carries_of_push h.valid hpush e he
      exact ⟨event.kind, hcarries.kind_eq ▸ SessionEvent.Kind.ofName?_name event.kind⟩
    · exact hs'.pos_of_mem (hlog ▸ List.mem_append_right s.log he)
  have hload := h.loaded
  rw [load, Model.ofLog_eq_fold] at hload
  rw [load, Model.ofLog_eq_fold, hlog, List.filter_append, hall, Model.fold_append, hload,
    Model.loaded_of_empty (Model.buffer_of_ofLog h.loaded)]
  rfl

end Store

/-- A call that was left alone and has appended early ends well. It reports the model that is then
loaded, and the store has grown by what it had decided on. -/
theorem Caller.Appended.reported {s s' : Store} {c : Caller} {moments : List Moment}
    (h : c.Appended moments s s') (hs : s.Sound) (hs' : s'.Sound) (hwritten : s.Written)
    (hearly : ∀ moment ∈ moments, moment.now.Early) :
    ∃ m', c.call.phase = .done (.ok ⟨m', c.call.attempt, true⟩) ∧
      s'.load c.call.sessionId c.call.resourceOwner = .ok m' ∧
      ∃ m d events appended, s.load c.call.sessionId c.call.resourceOwner = .ok m ∧
        c.call.Decides m d ∧ d.LeadsTo c.asked events ∧ events ≠ [] ∧
        s.Grows ⟨sessionType, c.call.sessionId⟩ (events.map SessionEvent.toPending) appended
          s' := by
  obtain ⟨moment, hmoment, m, events, appended, hresolved, hpush, hphase⟩ := h
  obtain ⟨m', hm'⟩ : ∃ m', m.loaded appended = .ok m' := by
    rw [Model.loaded_of_empty (Model.buffer_of_ofLog hresolved.loaded)]
    exact Model.exists_fold
      (Store.folds_of_push hresolved.valid (hearly moment hmoment) hpush) m
  rw [hm'] at hphase
  refine ⟨m', hphase, ?_, ?_⟩
  · rw [Store.load_of_resolved hs hs' hwritten hresolved hpush, hm']
  · obtain ⟨d, hd, hleads⟩ := hresolved.decided
    have hgrows := Store.grows_of_push hpush
    rw [Model.key_of_ofLog hresolved.loaded] at hgrows
    exact ⟨m, d, events, appended, hresolved.loaded, hd, hleads, hresolved.nonempty, hgrows⟩

namespace World

/-- **A call reports what the log says.** After any run, a call is carried out while nobody else
does anything, and is early. If it ends well, its model is, in all that it knows, the model that is
then loaded on behalf of the same owner. If it reports a change, the log has grown by the events
that it had decided on, on the session as it was before. In all other cases nothing has changed. -/
theorem outcome_told (acts : List Act) (hwrites : ∀ a ∈ acts, a.Writes) (errand : Errand)
    (hearly : ∀ moment ∈ errand.moments, moment.now.Early) :
    let before := (after acts).store
    let afterwards := ((after acts).carryOut errand).store
    ∃ last, ((after acts).carryOut errand).callers[(after acts).callers.length]? = some last ∧
      last.call.request = errand.call.request ∧
      (∀ outcome, last.call.phase = .done (.ok outcome) →
        afterwards.load errand.sessionId errand.resourceOwner = .ok outcome.model) ∧
      ((∀ outcome, last.call.phase = .done (.ok outcome) → outcome.changed = false) →
        afterwards = before) ∧
      ∀ outcome, last.call.phase = .done (.ok outcome) → outcome.changed = true →
        ∃ m d events appended, before.load errand.sessionId errand.resourceOwner = .ok m ∧
          errand.call.Decides m d ∧ d.LeadsTo last.asked events ∧ events ≠ [] ∧
          before.Grows ⟨sessionType, errand.sessionId⟩ (events.map SessionEvent.toPending)
            appended afterwards := by
  intro before afterwards
  obtain ⟨last, hlast, hrequest, hcases⟩ := (after acts).carryOut_cases errand
  have hid : last.call.sessionId = errand.sessionId := Call.sessionId_eq hrequest
  have howner : last.call.resourceOwner = errand.resourceOwner := Call.resourceOwner_eq hrequest
  refine ⟨last, hlast, hrequest, ?_⟩
  rcases hcases with ⟨hsame, halone⟩ | happended
  · have hok : ∀ outcome, last.call.phase = .done (.ok outcome) →
        before.load errand.sessionId errand.resourceOwner = .ok outcome.model ∧
          outcome.changed = false := by
      intro outcome hdone
      rw [Caller.Alone, hdone, hid, howner] at halone
      exact halone
    have hstays : afterwards = before := hsame
    rw [hstays]
    refine ⟨fun outcome hdone => (hok outcome hdone).1, fun _ => rfl,
      fun outcome hdone hchanged => ?_⟩
    exact absurd ((hok outcome hdone).2.symm.trans hchanged) Bool.false_ne_true
  · obtain ⟨m', hphase, hload, m, d, events, appended, hbefore, hd, hleads, hnonempty, hgrows⟩ :=
      happended.reported (sound_after acts) (sound_carryOut acts errand) (written_after hwrites)
        hearly
    rw [hid, howner] at hload hbefore
    rw [hid] at hgrows
    refine ⟨fun outcome hdone => ?_, fun hunchanged => ?_, fun outcome hdone _ => ?_⟩
    · rw [hphase] at hdone
      cases hdone
      exact hload
    · exact absurd (hunchanged _ hphase) Bool.noConfusion
    · exact ⟨m, d, events, appended, hbefore, hd.congr hrequest.symm, hleads, hnonempty, hgrows⟩

theorem outcome_told_token :
    (∀ a ∈ takeover, a.Writes) ∧ (∀ moment ∈ (tokenErrand none 2).moments, moment.now.Early) ∧
      ∃ last outcome, ((after takeover).carryOut (tokenErrand none 2)).callers[2]? = some last ∧
        last.call.phase = .done (.ok outcome) ∧ outcome.model.identity.owner? = some "org" ∧
        ((after takeover).carryOut (tokenErrand none 2)).store.load "s" none = .ok outcome.model ∧
        ∃ events appended, events ≠ [] ∧
          (after takeover).store.Grows ⟨sessionType, "s"⟩ (events.map SessionEvent.toPending)
            appended ((after takeover).carryOut (tokenErrand none 2)).store := by
  have hwrites : ∀ a ∈ takeover, a.Writes := by decide
  have hearly : ∀ moment ∈ (tokenErrand none 2).moments, moment.now.Early := by decide
  obtain ⟨last, hlast, -, hload, -, hgrows⟩ :=
    outcome_told takeover hwrites (tokenErrand none 2) hearly
  have hreports : ∀ last, ((after takeover).carryOut (tokenErrand none 2)).callers[2]? = some last →
      ∃ outcome, last.call.phase = .done (.ok outcome) ∧
        outcome.model.identity.owner? = some "org" ∧ outcome.changed = true := by
    intro last hlast
    cases hlast
    exact ⟨_, rfl, rfl, rfl⟩
  obtain ⟨outcome, hdone, howner, hchanged⟩ := hreports last hlast
  obtain ⟨-, -, events, appended, -, -, -, hnonempty, hgrown⟩ := hgrows outcome hdone hchanged
  exact ⟨hwrites, hearly, last, outcome, hlast, hdone, howner, hload outcome hdone, events,
    appended, hnonempty, hgrown⟩

end World

end SessionLedger
