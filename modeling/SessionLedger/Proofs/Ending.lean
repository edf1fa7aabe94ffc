import SessionLedger.Proofs.Ownership
import SessionLedger.Session.View

/-!
# The end of a session

Nothing in the fold keeps a session ended: folding goes on behind the end, and an opening would
revive it. That an ended session stays so rests on what calls append. None of them appends to a
session that its model takes for ended, so it has to be shown that no call takes an ended session
for anything else, not even one that had decided before the end came.

This holds if every writer names an owner. Then every stream belongs to somebody, and a call that is
let in has seen the whole stream.

## Main definitions

* `Ended` — a session was ended
* `Act.NamesOwner` — whoever writes names an owner
* `Store.Owned` — every stream in the index belongs to somebody

## Main results

* `World.owner_ne_of_mem_stream` — every stream belongs to somebody
* `World.state_of_ended` — the facts of an ended session say so
* `World.ended_for_good` — once a session is ended, no call appends to it
-/

namespace SessionLedger

/-- The session was ended in the events. -/
def Ended (events : List Event) : Prop :=
  ∃ e ∈ events, e.kind = SessionEvent.Kind.terminated.name

/-! ### Folding behind the end -/

theorem ended_append_iff {events more : List Event} :
    Ended (events ++ more) ↔ Ended events ∨ Ended more := by
  simp [Ended, or_and_right, exists_or]

theorem not_ended_of_unknown {events : List Event}
    (hunknown : ∀ e ∈ events, SessionEvent.Kind.ofName? e.kind = none) : ¬ Ended events := by
  rintro ⟨e, he, hkind⟩
  have hnone := hunknown e he
  simp [hkind] at hnone

namespace Facts

variable {f : Facts} {events more : List Event} {stored : Event}

/-- Events that sessions do not know do not count behind a history either. -/
theorem foldlM_apply_append_unknown
    (hunknown : ∀ e ∈ more, SessionEvent.Kind.ofName? e.kind = none) (f : Facts) :
    (events ++ more).foldlM apply f = events.foldlM apply f := by
  have hmore : more.filter (fun e => (SessionEvent.Kind.ofName? e.kind).isSome) = [] :=
    List.filter_eq_nil_iff.mpr fun e he => by simp [hunknown e he]
  rw [← foldlM_apply_filter_known, List.filter_append, hmore, List.append_nil,
    foldlM_apply_filter_known]

/-- When a session is ended, its facts say so afterwards. -/
theorem exists_fold_terminated (h : events.foldlM apply {} = .ok f)
    (hstored : stored.Carries .terminated) :
    ∃ f', (events ++ [stored]).foldlM apply {} = .ok f' ∧ f'.state = .terminated := by
  refine ⟨{ f with state := .terminated }, ?_, rfl⟩
  have happly : f.apply stored = .ok { f with state := .terminated } :=
    apply_eq_ok_iff.mpr (.inr ⟨_, hstored, rfl⟩)
  rw [List.foldlM_append, h]
  simp [bind, Except.bind, pure, Except.pure, happly]

end Facts

theorem Model.isUsable_view_of_terminated {m : Model} (h : m.facts.state = .terminated)
    (now : Instant) : m.view.isUsable now = false := by
  simp [View.isUsable, view, h]

/-- No call appends to a session that it takes for ended. -/
theorem Caller.Appends.state_ne_terminated {c : Caller} {s : Store} {m : Model} {e : SessionEvent}
    {stored : Event} (h : c.Appends s m e stored) : m.facts.state ≠ .terminated := by
  rw [h.warranted.state]
  split <;> decide

/-! ### Owners -/

/-- Whoever writes names an owner. -/
def Act.NamesOwner : Act → Prop
  | .start sessionId resourceOwner _ _ => (Identity.session sessionId resourceOwner).owner? ≠ none
  | .step .. => True
  | .foreign _ who _ _ => who.owner? ≠ none

instance : (a : Act) → Decidable a.NamesOwner
  | .start sessionId resourceOwner _ _ =>
    inferInstanceAs (Decidable ((Identity.session sessionId resourceOwner).owner? ≠ none))
  | .step .. => inferInstanceAs (Decidable True)
  | .foreign _ who _ _ => inferInstanceAs (Decidable (who.owner? ≠ none))

/-- Every stream in the index belongs to somebody. -/
def Store.Owned (s : Store) : Prop := ∀ key head, s.head? key = some head → head.owner ≠ ""

theorem Store.Owned.push {s s' : Store} {now : Instant} {who : Identity} {condition : Condition}
    {pending : List PendingEvent} {events : List Event} (h : s.Owned)
    (hpush : s.push now who condition pending = .ok (events, s')) (howner : who.owner? ≠ none) :
    s'.Owned := by
  intro key head hhead
  rw [head?_push hpush] at hhead
  split at hhead
  · cases hhead
    cases hold : s.head? who.key with
    | none =>
      obtain ⟨owner, howner⟩ := Option.ne_none_iff_exists'.mp howner
      simpa [headFor, hold, howner] using Identity.owner?_ne_empty howner
    | some head => simpa [headFor, hold] using h who.key head hold
  · exact h key head hhead

namespace World

variable {acts : List Act}

theorem owner_ne_none_of_caller (hnames : ∀ a ∈ acts, a.NamesOwner) {caller : Caller}
    (hcaller : caller ∈ (after acts).callers) : caller.call.request.owner? ≠ none := by
  refine after_invariant (P := fun w => ∀ c ∈ w.callers, c.call.request.owner? ≠ none) (by simp)
    (fun past a w' hpast ih hev c hc => ?_) caller hcaller
  have ha : a.NamesOwner := hnames a (hpast.subset (by simp))
  cases hev with
  | enter =>
    rcases List.mem_append.mp hc with hc | hc
    · exact ih c hc
    · rw [List.mem_singleton.mp hc]
      exact ha
  | idle | foreign => exact ih c hc
  | @move number moment mover next hmover hmoves =>
    rcases List.mem_or_eq_of_mem_set hc with hc | rfl
    · exact ih c hc
    · rw [hmoves.request_eq]
      exact ih mover (List.mem_of_getElem? hmover)
  | @append number moment mover m events appended store hmover hphase hpush =>
    rcases List.mem_or_eq_of_mem_set hc with hc | rfl
    · exact ih c hc
    · rw [Call.request_afterAppend]
      exact ih mover (List.mem_of_getElem? hmover)

theorem owned_after (hnames : ∀ a ∈ acts, a.NamesOwner) : (after acts).store.Owned := by
  refine after_invariant (P := fun w => w.store.Owned)
    (by simp [Store.Owned, Store.head?, Store.empty]) fun past a w' hpast ih hev => ?_
  have hpastnames : ∀ b ∈ past, b.NamesOwner := fun b hb => hnames b (hpast.subset (by simp [hb]))
  have ha : a.NamesOwner := hnames a (hpast.subset (by simp))
  cases hev with
  | enter | idle | move => exact ih
  | @append number moment caller m events appended store hcaller hphase hpush =>
    have hmem := List.mem_of_getElem? hcaller
    obtain ⟨⟨seen, -, hload⟩, -⟩ := (sound_of_caller past hmem).of_appending hphase
    obtain ⟨owner, howner⟩ :=
      Option.ne_none_iff_exists'.mp (owner_ne_none_of_caller hpastnames hmem)
    exact ih.push hpush (by simp [Model.owner_of_ofLog hload howner])
  | foreign hpush => exact ih.push hpush ha

/-- Every stream belongs to somebody, if every writer names an owner. -/
theorem owner_ne_of_mem_stream (hnames : ∀ a ∈ acts, a.NamesOwner) {key : StreamKey} {e : Event}
    (he : e ∈ (after acts).store.stream key) : e.resourceOwner ≠ "" := by
  obtain ⟨head, hhead⟩ := (sound_after acts).exists_head he
  rw [(sound_after acts).owner key head hhead e he]
  exact owned_after hnames key head hhead

/-! ### Behind the end -/

/-- If every writer names an owner, a call knows the stream that it appends to. -/
theorem knows_entries_after (hnames : ∀ a ∈ acts, a.NamesOwner) {caller : Caller} {m : Model}
    {e : SessionEvent} {stored : Event} (happends : caller.Appends (after acts).store m e stored) :
    (((after acts).entries m.identity.key).map Entry.event).foldlM Facts.apply {} =
      .ok m.facts := by
  rw [map_event_entries]
  exact happends.knows_stream (sound_after acts) fun _ _ => owner_ne_of_mem_stream hnames

/-- The facts of an ended session say so. -/
theorem state_of_ended (hnames : ∀ a ∈ acts, a.NamesOwner) {key : StreamKey}
    (hended : Ended ((after acts).store.stream key)) :
    ∃ f, ((after acts).store.stream key).foldlM Facts.apply {} = .ok f ∧ f.state = .terminated := by
  rw [← map_event_entries] at hended ⊢
  refine entries_induction acts key
    (P := fun entries => Ended (entries.map Entry.event) →
      ∃ f, (entries.map Entry.event).foldlM Facts.apply {} = .ok f ∧ f.state = .terminated)
    (fun hnil => ?_) (fun entries more ih hmore hended => ?_) ?_ hended
  · obtain ⟨e, he, -⟩ := hnil
    cases he
  · have hunknown : ∀ e ∈ more.map Entry.event, SessionEvent.Kind.ofName? e.kind = none :=
      List.forall_mem_map.mpr fun x hx => (hmore x hx).2
    rw [List.map_append] at hended ⊢
    rw [Facts.foldlM_apply_append_unknown hunknown]
    exact ih ((ended_append_iff.mp hended).resolve_right (not_ended_of_unknown hunknown))
  · rintro past number caller m e stored hpast - rfl happends ih hended
    have hknows := knows_entries_after (fun a ha => hnames a (hpast.subset ha)) happends
    rw [List.map_append] at hended ⊢
    rcases ended_append_iff.mp hended with hold | ⟨_, hlast, hkind⟩
    · -- The call would have known of the end.
      obtain ⟨f, hf, hstate⟩ := ih hold
      obtain rfl := Except.ok.inj (hf.symm.trans hknows)
      exact absurd hstate happends.state_ne_terminated
    · rw [List.mem_singleton.mp hlast, happends.carries.kind_eq] at hkind
      have hkind := SessionEvent.Kind.name_injective hkind
      cases e with
      | terminated => exact Facts.exists_fold_terminated hknows happends.carries
      | _ => cases hkind

/-- No call appends to an ended session. -/
theorem not_ended_of_appends (hnames : ∀ a ∈ acts, a.NamesOwner) {caller : Caller} {m : Model}
    {e : SessionEvent} {stored : Event} (happends : caller.Appends (after acts).store m e stored) :
    ¬ Ended ((after acts).store.stream m.identity.key) := by
  intro hended
  obtain ⟨f, hf, hstate⟩ := state_of_ended hnames hended
  have hknows := knows_entries_after hnames happends
  rw [map_event_entries, hf] at hknows
  exact happends.state_ne_terminated (Except.ok.inj hknows ▸ hstate)

/-- Whoever loads an ended session on behalf of its owner finds it ended. -/
theorem exists_load_of_ended (hnames : ∀ a ∈ acts, a.NamesOwner) {sessionId : String}
    (hended : Ended ((after acts).store.stream ⟨sessionType, sessionId⟩)) {e : Event}
    (he : e ∈ (after acts).store.stream ⟨sessionType, sessionId⟩) :
    ∃ m, (after acts).store.load sessionId (some e.resourceOwner) = .ok m ∧
      m.facts.state = .terminated := by
  obtain ⟨f, hf, hstate⟩ := state_of_ended hnames hended
  have howner : ∀ owner ∈ (Identity.session sessionId (some e.resourceOwner)).owner?,
      ∀ other ∈ (after acts).store.stream ⟨sessionType, sessionId⟩,
        other.resourceOwner = owner := by
    intro owner hnamed other hother
    rw [(sound_after acts).owner_eq hother he]
    exact Option.some.inj (Option.filter_eq_some_iff.mp hnamed).1
  rw [← Store.map_facts_load (sound_after acts) howner] at hf
  cases hload : (after acts).store.load sessionId (some e.resourceOwner) with
  | error fault => rw [hload] at hf; cases hf
  | ok m =>
    rw [hload] at hf
    exact ⟨m, rfl, (Except.ok.inj hf) ▸ hstate⟩

/-- **A session that was ended stays ended.** If everybody who writes names an owner, then after a
session was ended no call appends to it, whatever it had loaded and decided before; and whoever
loads the session on behalf of its owner finds it ended, and not to be used at any instant. -/
theorem ended_for_good (acts more : List Act)
    (hnames : ∀ a ∈ acts ++ more, a.NamesOwner) {sessionId : String}
    (hended : Ended ((after acts).store.stream ⟨sessionType, sessionId⟩)) :
    (∃ later, (after (acts ++ more)).entries ⟨sessionType, sessionId⟩ =
          (after acts).entries ⟨sessionType, sessionId⟩ ++ later ∧
        ∀ x ∈ later, x.origin = none) ∧
      ∀ e ∈ (after (acts ++ more)).store.stream ⟨sessionType, sessionId⟩,
        ∃ m, (after (acts ++ more)).store.load sessionId (some e.resourceOwner) = .ok m ∧
          m.facts.state = .terminated ∧ ∀ now, m.view.isUsable now = false := by
  obtain ⟨later, hlater⟩ := entries_mono (List.prefix_append acts more) ⟨sessionType, sessionId⟩
  refine ⟨⟨later, hlater.symm, fun x hx => ?_⟩, fun e he => ?_⟩
  · cases horigin : x.origin with
    | none => rfl
    | some origin =>
      obtain ⟨before, behind, rfl⟩ := List.append_of_mem hx
      rw [← List.append_assoc] at hlater
      obtain ⟨past, caller, m, e, hpast, hearlier, -, hkey, happends⟩ :=
        exists_appends hlater.symm horigin
      have hnot := not_ended_of_appends (fun a ha => hnames a (hpast.subset ha)) happends
      rw [hkey, ← map_event_entries, hearlier, List.map_append, map_event_entries,
        ended_append_iff] at hnot
      exact absurd (.inl hended) hnot
  · have hstill : Ended ((after (acts ++ more)).store.stream ⟨sessionType, sessionId⟩) := by
      rw [← map_event_entries, ← hlater, List.map_append, map_event_entries, ended_append_iff]
      exact .inl hended
    obtain ⟨m, hload, hstate⟩ := exists_load_of_ended hnames hstill he
    exact ⟨m, hload, hstate, Model.isUsable_view_of_terminated hstate⟩

/-- A session is opened, one call has decided to set its token, and then another call ends it. -/
def endedBetween : List Act :=
  .start "s" (some "org") (.create none) 0 :: List.replicate 3 (.step 0 contentMoment) ++
  [.start "s" (some "org") .setToken 1, .step 1 contentMoment] ++
  .start "s" (some "org") (.terminate none) 0 :: List.replicate 2 (.step 2 contentMoment)

/-- The call that wanted to set the token goes on. -/
def lateToken : List Act := List.replicate 2 (.step 1 contentMoment)

theorem ended_for_good_lateToken :
    (∀ a ∈ endedBetween ++ lateToken, a.NamesOwner) ∧
      (∃ caller m events, (after endedBetween).callers[1]? = some caller ∧
        caller.call.phase = .appending m events) ∧
      Ended ((after endedBetween).store.stream ⟨sessionType, "s"⟩) ∧
      (∃ later, (after (endedBetween ++ lateToken)).entries ⟨sessionType, "s"⟩ =
          (after endedBetween).entries ⟨sessionType, "s"⟩ ++ later ∧
        ∀ x ∈ later, x.origin = none) ∧
      ∃ m, (after (endedBetween ++ lateToken)).store.load "s" (some "org") = .ok m ∧
        m.facts.state = .terminated ∧ ∀ now, m.view.isUsable now = false := by
  have hnames : ∀ a ∈ endedBetween ++ lateToken, a.NamesOwner := by decide
  have hended : Ended ((after endedBetween).store.stream ⟨sessionType, "s"⟩) :=
    ⟨_, .tail _ (.head _), rfl⟩
  obtain ⟨hlater, hload⟩ := ended_for_good endedBetween lateToken hnames hended
  exact ⟨hnames, ⟨_, _, _, rfl, rfl⟩, hended, hlater, hload _ (.head _)⟩

end World

end SessionLedger
