import SessionLedger.Proofs.Ownership

/-!
# Tenants do not meet

Two owners may use the same session id. Then the session is the one's who came first, and the other
cannot tell that it exists, other than by not being able to open it: nothing that is done on behalf
of one owner changes what the other loads, and no call appends to a stream that holds an event of
another owner than the one it names.

An append of no events would enter a stream into the index without any event that says whom it
belongs to. Calls make no such appends; of others it has to be assumed.

## Main definitions

* `Act.Writes` — whoever appends appends something

## Main results

* `Store.load_of_push` — appends of others do not change what an owner loads
* `World.written_after` — every stream in the index has events
* `World.tenants_apart` — what is done on behalf of one owner leaves the other alone
-/

namespace SessionLedger

/-- Events that are not the owner's change nothing in what the owner loads. -/
theorem Store.load_of_push {s s' : Store} {now : Instant} {who : Identity} {condition : Condition}
    {pending : List PendingEvent} {events : List Event} {owner : String}
    (hpush : s.push now who condition pending = .ok (events, s')) (howner : owner ≠ "")
    (hevents : ∀ e ∈ events, e.resourceOwner ≠ owner) (sessionId : String) :
    s'.load sessionId (some owner) = s.load sessionId (some owner) := by
  have hnone : events.filter (Model.new sessionId (some owner)).query.selects = [] := by
    refine List.filter_eq_nil_iff.mpr fun e he hsel => ?_
    obtain ⟨-, hnamed, -, -⟩ := Model.selects_iff.mp hsel
    have hasked : (Identity.session sessionId (some owner)).owner? = some owner := by
      simp [Identity.owner?, Identity.session, howner]
    exact hevents e he (hnamed owner hasked).symm
  rw [load, load, Model.ofLog_eq_fold, Model.ofLog_eq_fold, (push_log hpush).1, List.filter_append,
    hnone, List.append_nil]

/-- Whoever appends appends something. -/
def Act.Writes : Act → Prop
  | .foreign _ _ _ batch => batch.pending ≠ []
  | .start .. | .step .. => True

instance : (a : Act) → Decidable a.Writes
  | .foreign _ _ _ batch => inferInstanceAs (Decidable (batch.pending ≠ []))
  | .start .. | .step .. => inferInstanceAs (Decidable True)

namespace World

variable {acts : List Act} {o o' : String}

/-- Every stream in the index has events. -/
theorem written_after (hwrites : ∀ a ∈ acts, a.Writes) : (after acts).store.Written := by
  refine after_invariant (P := fun w => w.store.Written)
    (by simp [Store.Written, Store.head?, Store.empty]) fun past a w' hpast ih hev => ?_
  have ha : a.Writes := hwrites a (hpast.subset (by simp))
  cases hev with
  | enter | idle | move => exact ih
  | append hcaller hphase hpush =>
    have hsound := sound_of_caller past (List.mem_of_getElem? hcaller)
    obtain ⟨-, -, hnonempty, -⟩ := hsound.of_appending hphase
    exact ih.push hpush (by simpa using hnonempty)
  | foreign hpush => exact ih.push hpush ha

/-- A step of a call on behalf of one owner leaves what another owner loads as it is. -/
theorem load_act_step (hwrites : ∀ a ∈ acts, a.Writes) (ho : o ≠ "") (hne : o ≠ o')
    {number : Nat} {caller : Caller} (hcaller : (after acts).callers[number]? = some caller)
    (howner : caller.call.request.owner? = some o') (moment : Moment) (sessionId : String) :
    ((after acts).act (.step number moment)).store.load sessionId (some o) =
      (after acts).store.load sessionId (some o) := by
  generalize hw' : (after acts).act (.step number moment) = w'
  have hev : (after acts).Evolves (.step number moment) w' := hw' ▸ evolves_act _ _
  cases hev with
  | idle | move => rfl
  | @append number moment caller' m events appended store hcaller' hphase hpush =>
    obtain rfl := Option.some.inj (hcaller.symm.trans hcaller')
    obtain ⟨e, stored, rfl, happends⟩ := appends_of_push hcaller hphase hpush
    refine Store.load_of_push hpush ho (fun e he => ?_) sessionId
    rcases (sound_after acts).owner_of_appended (written_after hwrites) hpush
      (happends.owner_eq howner) he with hnobody | hmine
    · exact hnobody ▸ ho.symm
    · exact hmine ▸ hne.symm

/-- A call on behalf of one owner has appended to no stream that held an event of another. -/
theorem owner_ne_of_appended (ho : o ≠ "")
    (hne : o ≠ o') {key : StreamKey} {earlier later : List Entry} {x : Entry} {origin : Origin}
    (hsplit : (after acts).entries key = earlier ++ x :: later) (horigin : x.origin = some origin)
    {caller : Caller} (hcaller : (after acts).callers[origin.number]? = some caller)
    (howner : caller.call.request.owner? = some o') :
    ∀ y ∈ earlier, y.event.resourceOwner ≠ o := by
  obtain ⟨past, writer, m, e, hpast, hearlier, hwriter, hkey, happends⟩ :=
    exists_appends hsplit horigin
  rw [request_eq hpast hwriter hcaller] at howner
  intro y hy
  have hmem : y.event ∈ (after past).store.stream m.identity.key := by
    rw [hkey, ← map_event_entries, hearlier]
    exact List.mem_map_of_mem hy
  rcases happends.owner_cases (sound_after past) howner hmem with hnobody | hmine
  · exact hnobody ▸ ho.symm
  · exact hmine ▸ hne.symm

/-- **Tenants do not meet.** In every run, for any two owners: a step of a call on behalf of the one
leaves what the other loads of any session as it is; whatever a call on behalf of the one has
appended, no event of the other stands before it in the stream; and calls that report a change have
appended something to the stream of their session. -/
theorem tenants_apart (acts : List Act) (hwrites : ∀ a ∈ acts, a.Writes) {o o' : String}
    (ho : o ≠ "") (ho' : o' ≠ "") (hne : o ≠ o') :
    (∀ (number : Nat) (caller : Caller) (moment : Moment) (sessionId : String),
        (after acts).callers[number]? = some caller → caller.call.resourceOwner = some o' →
        ((after acts).act (.step number moment)).store.load sessionId (some o) =
          (after acts).store.load sessionId (some o)) ∧
      (∀ (key : StreamKey) (earlier : List Entry) (x : Entry) (later : List Entry)
        (origin : Origin) (caller : Caller),
        (after acts).entries key = earlier ++ x :: later → x.origin = some origin →
        (after acts).callers[origin.number]? = some caller → caller.call.resourceOwner = some o' →
        ∀ y ∈ earlier, y.event.resourceOwner ≠ o) ∧
      ∀ (number : Nat) (caller : Caller) (outcome : Outcome),
        (after acts).callers[number]? = some caller → caller.call.phase = .done (.ok outcome) →
        outcome.changed = true →
        ∃ x ∈ (after acts).entries ⟨sessionType, caller.call.sessionId⟩,
          x.origin.map Origin.number = some number := by
  refine ⟨fun number caller moment sessionId hcaller howner => ?_,
    fun key earlier x later origin caller hsplit horigin hcaller howner => ?_,
    fun number caller outcome hcaller hdone hchanged => ?_⟩
  · exact load_act_step hwrites ho hne hcaller (Request.owner?_eq_some howner ho') moment
      sessionId
  · exact owner_ne_of_appended ho hne hsplit horigin hcaller
      (Request.owner?_eq_some howner ho')
  · rcases accounted hcaller hdone with ⟨-, hentry⟩ | ⟨hunchanged, -⟩
    · exact hentry
    · rw [hunchanged] at hchanged
      cases hchanged

/-- Two owners open a session of the same id. Both have seen no event when the first appends. -/
def rivals : List Act :=
  [.start "s" (some "org") (.create none) 0, .start "s" (some "rival") (.create none) 0,
    .step 0 contentMoment, .step 1 contentMoment, .step 0 contentMoment, .step 1 contentMoment,
    .step 0 contentMoment]

theorem tenants_apart_rivals :
    (∀ a ∈ rivals, a.Writes) ∧
      ∃ caller m events, (after rivals).callers[1]? = some caller ∧
        caller.call.resourceOwner = some "rival" ∧ caller.call.phase = .appending m events ∧
        ((after rivals).act (.step 1 contentMoment)).store.load "s" (some "org") =
          (after rivals).store.load "s" (some "org") ∧
        (after rivals).store.load "s" (some "org") ≠ (after []).store.load "s" (some "org") := by
  have hwrites : ∀ a ∈ rivals, a.Writes := by decide
  have horg : "org" ≠ "" := by decide
  have hrival : "rival" ≠ "" := by decide
  obtain ⟨happart, -, -⟩ := tenants_apart rivals hwrites horg hrival (by decide)
  have hcaller : (after rivals).callers[1]? = some _ := rfl
  refine ⟨hwrites, _, _, _, hcaller, rfl, rfl, happart 1 _ contentMoment "s" hcaller rfl, ?_⟩
  decide

end World

end SessionLedger
