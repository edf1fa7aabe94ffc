import SessionLedger.Proofs.Operations

/-!
# Rebuilding a store

A store can be built again from its exported log. The index of the rebuilt store is read off the
events, so it can be told apart from the original only by what the original's index knows and its
log does not say.

There is one such thing. An append of no events to a stream without events is admitted, and enters
the stream into the index with the owner on whose behalf it was made. Whoever then appends the first
event, it gets that owner. The log does not tell of the entry, and in the rebuilt store the event
gets the owner that its writer names.

## Main definitions

* `headOf?`, `Store.Indexed` — what the events of a stream say of it, and an index that says so
* `Store.Alike` — stores with the same log, and indexes that answer alike
* `Operation.Writes` — whatever is appended, it is something

## Main results

* `Store.exists_ofEvents` — a log in which positions increase can be imported
* `Store.Alike.serve` — stores that are alike answer alike for good
* `Store.Sound.indexed_iff` — a sound store's index says what the events say just if every stream in
  it has events
* `Store.rebuilt_answers` — when a rebuilt store cannot be told apart
* `Store.rebuilt_forgets` — the one thing that the log does not tell
-/

namespace SessionLedger

/-- What the events of a stream say of it: where its last event is, and whose its first is. -/
def headOf? (stream : List Event) : Option Head :=
  stream.head?.map fun first => ⟨(stream.getLast?.map (·.position)).getD 0, first.resourceOwner⟩

theorem headOf?_concat (stream : List Event) (e : Event) :
    headOf? (stream ++ [e]) =
      some { (headOf? stream).getD ⟨0, e.resourceOwner⟩ with position := e.position } := by
  rw [headOf?, List.getLast?_concat]
  cases stream <;> rfl

theorem headOf?_eq_none_iff {stream : List Event} : headOf? stream = none ↔ stream = [] := by
  simp [headOf?]

namespace Store

variable {s s' : Store} {log : List Event} {e : Event} {ops : List Operation}

/-! ### Importing -/

/-- The index says of each stream what its events say. -/
def Indexed (s : Store) : Prop := ∀ key, s.head? key = headOf? (s.stream key)

/-- An event that lies past its stream is added at the end of the log. -/
theorem Indexed.exists_addExported (h : s.Indexed)
    (hpast : ∀ head, headOf? (s.stream e.key) = some head → head.position < e.position)
    (hpos : 0 < e.position) :
    ∃ s', s.addExported e = .ok s' ∧ s'.log = s.log ++ [e] ∧ s'.Indexed := by
  have hnew : ¬ e.position ≤ ((s.head? e.key).getD ⟨0, e.resourceOwner⟩).position := by
    rw [h e.key, UInt64.not_le]
    cases hhead : headOf? (s.stream e.key) with
    | none => exact hpos
    | some head => exact hpast head hhead
  refine ⟨_, by rw [addExported, if_neg hnew], rfl, fun key => ?_⟩
  rw [stream_append, head?, lookup_setHead]
  by_cases hkey : key = e.key
  · subst hkey
    have hlast : [e].filter (fun x => x.key == e.key) = [e] := by simp
    rw [if_pos rfl, hlast, h e.key]
    exact (headOf?_concat _ e).symm
  · have hnone : [e].filter (fun x => x.key == key) = [] := by simp [Ne.symm hkey]
    rw [if_neg hkey, hnone, List.append_nil]
    exact h key

theorem ofEvents_concat (log : List Event) (e : Event) :
    ofEvents (log ++ [e]) = (ofEvents log).bind fun s => s.addExported e := by
  simp only [ofEvents, List.foldlM_append, List.foldlM_cons, List.foldlM_nil, bind_pure]
  rfl

/-- A log in which the positions of each stream increase from 1 on can be imported, and the index
is read off the events. -/
theorem exists_ofEvents (hpos : ∀ e ∈ log, 0 < e.position)
    (hinc : ∀ key,
      (log.filter fun e => e.key == key).Pairwise fun e e' => e.position < e'.position) :
    ∃ s, ofEvents log = .ok s ∧ s.log = log ∧ s.Indexed := by
  induction log using List.reverseRecOn with
  | nil => exact ⟨empty, rfl, rfl, fun key => rfl⟩
  | append_singleton log e ih =>
    have hinc' := fun key => List.pairwise_append.mp (List.filter_append log [e] ▸ hinc key)
    obtain ⟨s, hs, rfl, hindexed⟩ :=
      ih (fun x hx => hpos x (List.mem_append_left _ hx)) fun key => (hinc' key).1
    have hpast : ∀ head, headOf? (s.stream e.key) = some head → head.position < e.position := by
      intro head hhead
      cases hlast : (s.stream e.key).getLast? with
      | none =>
        rw [List.getLast?_eq_none_iff.mp hlast] at hhead
        cases hhead
      | some last =>
        rw [headOf?, hlast] at hhead
        obtain ⟨first, -, rfl⟩ := Option.map_eq_some_iff.mp hhead
        exact (hinc' e.key).2.2 last (List.mem_of_getLast? hlast) e (by simp)
    obtain ⟨s', hs', hlog, hindexed'⟩ :=
      hindexed.exists_addExported hpast (hpos e (by simp))
    exact ⟨s', by rw [ofEvents_concat, hs]; exact hs', hlog, hindexed'⟩

/-! ### Answering alike -/

/-- Stores with the same log, and indexes that answer alike. -/
structure Alike (s s' : Store) : Prop where
  log : s'.log = s.log
  head : ∀ key, s'.head? key = s.head? key

namespace Alike

theorem stream (h : s.Alike s') (key : StreamKey) : s'.stream key = s.stream key := by
  rw [Store.stream, Store.stream, h.log]

theorem headFor (h : s.Alike s') (who : Identity) : s'.headFor who = s.headFor who := by
  rw [Store.headFor, Store.headFor, h.head]

/-- Stores that are alike answer an operation alike, and stay alike. -/
theorem perform (h : s.Alike s') (op : Operation) :
    (s'.perform op).1 = (s.perform op).1 ∧ (s.perform op).2.Alike (s'.perform op).2 := by
  cases op with
  | filter q => exact ⟨by simp only [Store.perform, Store.filter, h.log], h⟩
  | latest who => exact ⟨by simp only [Store.perform, Store.latest, h.head], h⟩
  | aggregates => exact ⟨by simp only [Store.perform, Store.aggregates, h.log], h⟩
  | push now who condition pending =>
    simp only [Store.perform, Store.push, h.stream, h.headFor]
    by_cases hother : belongsToOther (s.headFor who) who = true
    · simp only [hother, if_true]
      exact ⟨trivial, h⟩
    · simp only [hother]
      cases condition.check (s.stream who.key) with
      | error e => exact ⟨rfl, h⟩
      | ok =>
        cases place who.key (s.headFor who).owner now (s.headFor who).position pending with
        | none => exact ⟨rfl, h⟩
        | some events =>
          refine ⟨rfl, by simp [h.log], fun key => ?_⟩
          have hold : s'.heads.lookup key = s.heads.lookup key := h.head key
          simp [Store.head?, lookup_setHead, hold]

/-- Stores that are alike answer alike for good. -/
theorem serve (h : s.Alike s') (ops : List Operation) : (s'.serve ops).1 = (s.serve ops).1 := by
  induction ops generalizing s s' with
  | nil => rfl
  | cons op ops ih =>
    obtain ⟨hanswer, hnext⟩ := h.perform op
    rw [serve_cons, serve_cons, hanswer, ih hnext]

end Alike

/-! ### What the log does not tell -/

/-- A sound store's index says what the events say just if every stream in it has events. -/
theorem Sound.indexed_iff (h : s.Sound) : s.Indexed ↔ s.Written := by
  refine ⟨fun hindexed key head hhead hnil => ?_, fun hwritten key => ?_⟩
  · rw [hindexed key, hnil] at hhead
    cases hhead
  · cases hhead : s.head? key with
    | none =>
      refine (headOf?_eq_none_iff.mpr (List.eq_nil_iff_forall_not_mem.mpr fun e he => ?_)).symm
      obtain ⟨head, hsome⟩ := h.exists_head he
      rw [hhead] at hsome
      cases hsome
    | some head =>
      obtain ⟨first, rest, hstream⟩ := List.exists_cons_of_ne_nil (hwritten key head hhead)
      have howner : first.resourceOwner = head.owner :=
        h.owner key head hhead first (hstream ▸ List.mem_cons_self)
      have hlatest : head.position.toNat = (s.stream key).length := by
        rw [← h.latest key, Store.latest, hhead]
        rfl
      have hlast : ((s.stream key).getLast?.map (·.position)).getD 0 = head.position := by
        have hnumber :
            (s.stream key).getLast?.map (·.position.toNat) = some head.position.toNat := by
          rw [← List.getLast?_map, h.positions key, hlatest, hstream, List.length_cons,
            List.range'_concat]
          simp [Nat.add_comm]
        obtain ⟨last, hsome, hnat⟩ := Option.map_eq_some_iff.mp hnumber
        rw [hsome]
        exact UInt64.toNat_inj.mp hnat
      rw [headOf?, hlast, hstream, List.head?_cons, Option.map_some, howner]

/-- To a stream without events an event can be appended, and gets the owner that the index names. -/
theorem answer_of_vacant {who : Identity} (hstream : s.stream who.key = [])
    (hposition : (s.headFor who).position = 0) (p : PendingEvent) :
    (s.perform (.push .epoch who (.atPosition 0) [p])).1 =
      .events [p.stored who.key (s.headFor who).owner 1 .epoch] := by
  have hfree : belongsToOther (s.headFor who) who = false := by simp [belongsToOther, hposition]
  have hcheck : (Condition.atPosition 0).check (s.stream who.key) = .ok () := by rw [hstream]; rfl
  have hplace : place who.key (s.headFor who).owner .epoch (s.headFor who).position [p] =
      some [p.stored who.key (s.headFor who).owner 1 .epoch] := by
    rw [hposition]
    rfl
  rw [perform_of_push (push_eq_ok_iff.mpr ⟨hfree, hcheck, hplace, rfl⟩)]

/-- A stream without events that is in the index of one store, and not in that of another, tells
them apart: somebody who is not the owner appends to it. -/
theorem exists_answer_ne {key : StreamKey} {head : Head} (hhead : s.head? key = some head)
    (hposition : head.position = 0) (hstream : s.stream key = []) (hstream' : s'.stream key = [])
    (hnone : s'.head? key = none) : ∃ op, (s'.perform op).1 ≠ (s.perform op).1 := by
  obtain ⟨other, hnamed, hother⟩ : ∃ other, other ≠ "" ∧ other ≠ head.owner := by
    by_cases howner : head.owner = "a"
    · exact ⟨"b", by decide, by rw [howner]; decide⟩
    · exact ⟨"a", by decide, Ne.symm howner⟩
  let who : Identity := ⟨key.aggregateType, key.id, some other⟩
  have hwho : s.headFor who = head := by
    rw [headFor, show who.key = key from rfl, hhead, Option.getD_some]
  have howner : who.owner? = some other := by simp [who, Identity.owner?, hnamed]
  have hwho' : s'.headFor who = ⟨0, other⟩ := by
    rw [headFor, show who.key = key from rfl, hnone, howner]
    rfl
  refine ⟨.push .epoch who (.atPosition 0) [⟨"", .null, ""⟩], ?_⟩
  rw [answer_of_vacant hstream' (by rw [hwho']), answer_of_vacant hstream (by rw [hwho, hposition]),
    hwho, hwho']
  simp [PendingEvent.stored, hother]

end Store

/-- Whatever is appended, it is something. -/
def Operation.Writes : Operation → Prop
  | .push _ _ _ pending => pending ≠ []
  | .filter _ | .latest _ | .aggregates => True

instance Operation.decidableWrites : (op : Operation) → Decidable op.Writes
  | .push _ _ _ pending => inferInstanceAs (Decidable (pending ≠ []))
  | .filter _ | .latest _ | .aggregates => inferInstanceAs (Decidable True)

namespace Store

variable {s s' : Store} {ops : List Operation}

/-- If something is appended always, every stream in the index has events. -/
theorem written_of_serve (hwrites : ∀ op ∈ ops, op.Writes) : (empty.serve ops).2.Written := by
  refine serve_induction (P := Written) (by simp [Written, head?, empty]) ?_
  intro now who condition pending appended s s' hop hwritten hpush
  exact hwritten.push hpush (hwrites _ hop)

/-- **When a rebuilt store cannot be told apart.** The exported log of every store can be imported.
The store that is built from it answers everything as the original does, for good, just if every
stream in the original's index has events; and so it is if no append was of no events. -/
theorem rebuilt_answers (ops : List Operation) :
    ∃ rebuilt, ofEvents ((empty.serve ops).2.filter {}) = .ok rebuilt ∧
      ((∀ more, (rebuilt.serve more).1 = ((empty.serve ops).2.serve more).1) ↔
        (empty.serve ops).2.Written) ∧
      ((∀ op ∈ ops, op.Writes) →
        ∀ more, (rebuilt.serve more).1 = ((empty.serve ops).2.serve more).1) := by
  have hsound : (empty.serve ops).2.Sound := Sound.empty.serve ops
  generalize hs : (empty.serve ops).2 = s at hsound
  have hpos : ∀ e ∈ s.log, 0 < e.position := fun e he => hsound.pos_of_mem he
  have hexport : s.filter {} = s.log := by
    rw [filter, Query.run_of_limit_none rfl]
    exact List.filter_eq_self.mpr fun e he => Query.selects_iff.mpr (by simp [hpos e he])
  obtain ⟨rebuilt, hrebuilt, hlog, hindexed⟩ := exists_ofEvents hpos hsound.increasing
  have hiff : (∀ more, (rebuilt.serve more).1 = (s.serve more).1) ↔ s.Written := by
    refine ⟨fun hsame key head hhead hnil => ?_, fun hwritten more => ?_⟩
    · have hposition : head.position = 0 := by
        have hlatest := hsound.latest key
        rw [latest, hhead, hnil] at hlatest
        exact UInt64.toNat_inj.mp hlatest
      have hnil' : rebuilt.stream key = [] := by rw [stream, hlog]; exact hnil
      obtain ⟨op, hop⟩ := exists_answer_ne hhead hposition hnil hnil'
        (by rw [hindexed key, hnil']; rfl)
      exact hop (List.cons.inj (hsame [op])).1
    · have hindexed' := hsound.indexed_iff.mpr hwritten
      have halike : s.Alike rebuilt :=
        ⟨hlog, fun key => by rw [hindexed key, hindexed' key, stream, hlog]; rfl⟩
      exact halike.serve more
  exact ⟨rebuilt, hexport ▸ hrebuilt, hiff, fun hwrites => hiff.mpr (hs ▸ written_of_serve hwrites)⟩

/-- A stream is begun twice: somebody else comes too late, and nobody in particular goes on. -/
def begunTwice : List Operation := [
  .push .epoch (.session "s" (some "org")) (.atPosition 0) [⟨"a", .null, "x"⟩],
  .push .epoch (.session "s" (some "rival")) (.atPosition 0) [⟨"b", .null, "y"⟩],
  .push .epoch (.session "s" none) (.atPosition 1) [⟨"c", .null, "z"⟩]]

theorem rebuilt_answers_begunTwice :
    (∀ op ∈ begunTwice, op.Writes) ∧
      ∃ rebuilt, ofEvents ((empty.serve begunTwice).2.filter {}) = .ok rebuilt ∧
        ∀ more, (rebuilt.serve more).1 = ((empty.serve begunTwice).2.serve more).1 := by
  have hwrites : ∀ op ∈ begunTwice, op.Writes := by decide
  obtain ⟨rebuilt, hrebuilt, -, hsame⟩ := rebuilt_answers begunTwice
  exact ⟨hwrites, rebuilt, hrebuilt, hsame hwrites⟩

/-- An append of no events. -/
def claimed : List Operation := [.push .epoch (.session "s" (some "org")) (.atPosition 0) []]

/-- Somebody else appends the first event. -/
def firstEvent : Operation :=
  .push .epoch (.session "s" (some "rival")) (.atPosition 0) [⟨"session.added", .null, ""⟩]

/-- What the log does not tell: after the append of no events the first event gets the owner of that
append, and in the rebuilt store the owner of its writer. -/
theorem rebuilt_forgets :
    ∃ rebuilt e e', ofEvents ((empty.serve claimed).2.filter {}) = .ok rebuilt ∧
      (((empty.serve claimed).2.serve [firstEvent]).1 = [.events [e]] ∧ e.resourceOwner = "org") ∧
      ((rebuilt.serve [firstEvent]).1 = [.events [e']] ∧ e'.resourceOwner = "rival") :=
  ⟨_, _, _, rfl, ⟨rfl, rfl⟩, rfl, rfl⟩

end Store

end SessionLedger
