import SessionLedger.Proofs.Rebuilding

/-!
# Imported logs

A log can be imported if in each of its streams the positions increase strictly, from 1 on, and not
otherwise. Nothing else is asked: positions may have gaps, and a stream may hold events of any kinds
and of several owners. So an imported store need not be sound. What it has in common with sound ones
is that its index has been read off its log, and of that this much outlives every append: the index
knows whose the first event of a stream is, and has no position for a stream without events.

## Main definitions

* `InOrder` — the order that an import asks for
* `Store.Headed` — what the index keeps of an import

## Main results

* `Store.of_ofEvents` — what an import accepts, and the store that it makes of it
* `Store.exists_ofEvents_iff` — which logs can be imported
* `Store.Headed.push` — every append keeps the owner of a stream
-/

namespace SessionLedger

/-- In each stream of the log the positions increase strictly, from 1 on. -/
structure InOrder (log : List Event) : Prop where
  positive : ∀ e ∈ log, 0 < e.position
  increasing : ∀ key,
    (log.filter fun e => e.key == key).Pairwise fun e e' => e.position < e'.position

theorem InOrder.concat {log : List Event} {e : Event} (h : InOrder log) (hpos : 0 < e.position)
    (hpast : ∀ x ∈ log.filter (fun x => x.key == e.key), x.position < e.position) :
    InOrder (log ++ [e]) where
  positive x hx := by
    rcases List.mem_append.mp hx with hx | hx
    · exact h.positive x hx
    · rwa [List.mem_singleton.mp hx]
  increasing key := by
    rw [List.filter_append, List.pairwise_append]
    refine ⟨h.increasing key, List.Pairwise.filter _ (List.pairwise_singleton _ e),
      fun x hx y hy => ?_⟩
    obtain ⟨hy, hkey⟩ := List.mem_filter.mp hy
    obtain rfl := List.mem_singleton.mp hy
    exact hpast x (beq_iff_eq.mp hkey ▸ hx)

namespace Store

variable {s s' : Store} {log : List Event} {e : Event}

/-! ### What an import accepts -/

/-- An event is added only if it lies past the head of its stream. -/
theorem Indexed.past_of_addExported (h : s.Indexed) (hadd : s.addExported e = .ok s') :
    0 < e.position ∧ ∀ head, headOf? (s.stream e.key) = some head → head.position < e.position := by
  rw [addExported, h e.key] at hadd
  split at hadd
  · cases hadd
  · next hnew =>
    have hlt := UInt64.not_le.mp hnew
    refine ⟨UInt64.lt_of_le_of_lt UInt64.zero_le hlt, fun head hhead => ?_⟩
    rwa [hhead] at hlt

/-- In a stream in order, what lies past its head lies past all of its events. -/
theorem lt_of_headOf? {stream : List Event} {position : UInt64}
    (hinc : stream.Pairwise fun e e' => e.position < e'.position)
    (hpast : ∀ head, headOf? stream = some head → head.position < position) :
    ∀ x ∈ stream, x.position < position := by
  rcases List.eq_nil_or_concat' stream with rfl | ⟨init, last, rfl⟩
  · simp
  · have hlast : last.position < position := hpast _ (headOf?_concat init last)
    intro x hx
    rcases List.mem_append.mp hx with hx | hx
    · exact UInt64.lt_trans ((List.pairwise_append.mp hinc).2.2 x hx last (by simp)) hlast
    · rwa [List.mem_singleton.mp hx]

/-- **What an import accepts, and what it makes of it.** The log is in order, the store has that
log, and its index says what the events say. -/
theorem of_ofEvents (h : ofEvents log = .ok s) : InOrder log ∧ s.log = log ∧ s.Indexed := by
  -- An import adds one event after the other, so what it made of all but the last is an import too.
  induction log using List.reverseRecOn generalizing s with
  | nil =>
    cases h
    exact ⟨⟨by simp, by simp⟩, rfl, fun key => rfl⟩
  | append_singleton log e ih =>
    rw [ofEvents_concat] at h
    cases hinit : ofEvents log with
    | error fault =>
      rw [hinit] at h
      cases h
    | ok init =>
      rw [hinit] at h
      have hadd : init.addExported e = .ok s := h
      obtain ⟨horder, rfl, hindexed⟩ := ih hinit
      obtain ⟨hpos, hpast⟩ := hindexed.past_of_addExported hadd
      obtain ⟨s', hs', hlog, hindexed'⟩ := hindexed.exists_addExported hpast hpos
      obtain rfl := Except.ok.inj (hadd.symm.trans hs')
      exact ⟨horder.concat hpos (lt_of_headOf? (horder.increasing e.key) hpast), hlog, hindexed'⟩

/-- Which logs can be imported. -/
theorem exists_ofEvents_iff : (∃ s, ofEvents log = .ok s) ↔ InOrder log := by
  constructor
  · rintro ⟨s, hs⟩
    exact (of_ofEvents hs).1
  · intro horder
    obtain ⟨s, hs, -, -⟩ := exists_ofEvents horder.positive horder.increasing
    exact ⟨s, hs⟩

/-! ### What the index keeps of it -/

/-- Writers find a stream with the owner of its first event, and a stream without events at no
position. -/
structure Headed (s : Store) : Prop where
  owner : ∀ who first, (s.stream who.key).head? = some first →
    (s.headFor who).owner = first.resourceOwner
  vacant : ∀ key, s.stream key = [] → s.latest key = 0

theorem Indexed.headed (h : s.Indexed) : s.Headed where
  owner who first hfirst := by
    rw [headFor, h, headOf?, hfirst]
    rfl
  vacant key hstream := by
    rw [latest, h, hstream]
    rfl

theorem Sound.headed (h : s.Sound) : s.Headed where
  owner _ _ hfirst := (h.owner_headFor (List.mem_of_head? hfirst)).symm
  vacant key hstream := by
    rw [← UInt64.toNat_inj, h.latest key, hstream]
    rfl

/-- Every append keeps the owner of a stream. -/
theorem Headed.push (h : s.Headed) {now : Instant} {who : Identity} {condition : Condition}
    {pending : List PendingEvent} {events : List Event}
    (hpush : s.push now who condition pending = .ok (events, s')) : s'.Headed where
  owner other first hfirst := by
    rw [stream_push hpush] at hfirst
    rw [headFor, head?_push hpush]
    by_cases hkey : other.key = who.key
    · rw [if_pos hkey, hkey] at hfirst
      rw [if_pos hkey]
      cases hstream : s.stream who.key with
      | nil =>
        rw [hstream, List.nil_append] at hfirst
        exact (owner_of_mem_push hpush (List.mem_of_head? hfirst)).symm
      | cons eldest rest =>
        rw [hstream] at hfirst
        exact h.owner who first (hstream ▸ hfirst)
    · rw [if_neg hkey, List.append_nil] at hfirst
      rw [if_neg hkey]
      exact h.owner other first hfirst
  vacant key hstream := by
    rw [stream_push hpush, List.append_eq_nil_iff] at hstream
    obtain ⟨hold, hnew⟩ := hstream
    rw [← UInt64.toNat_inj, latest_push hpush, h.vacant key hold]
    by_cases hkey : key = who.key
    · rw [if_pos hkey] at hnew ⊢
      rw [hnew]
      rfl
    · rw [if_neg hkey]
      rfl

end Store

end SessionLedger
