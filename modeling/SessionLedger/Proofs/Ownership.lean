import SessionLedger.Proofs.Provenance

/-!
# Whom streams belong to

A stream belongs to the owner on whose behalf it was begun, and to nobody if none was named. Calls
meet the owner in two places. The store turns away a writer that names another owner than the
stream's. And a model that names an owner sees of a stream only what is the owner's.

From the two together follows what a call knows of the stream that it appends to: all of it, with
one exception. If the call names an owner and the stream belongs to nobody, the store lets the call
in although its model sees nothing of the stream.

## Main definitions

* `Request.owner?` — on whose behalf a call was asked, if an owner is named
* `Store.Written` — every stream in the index has events

## Main results

* `Store.owner_of_mem_push` — an event gets the owner of its stream
* `Store.Sound.owner_of_admitted` — whoever names an owner writes to that owner's streams, or to
  nobody's
* `Caller.Appends.knows_stream` — what a call knows of the stream that it appends to
-/

namespace SessionLedger

/-- The owner on whose behalf a call was asked, if one is named. -/
def Request.owner? (r : Request) : Option String :=
  (Identity.session r.sessionId r.resourceOwner).owner?

theorem Request.owner?_eq_some {r : Request} {owner : String} (h : r.resourceOwner = some owner)
    (howner : owner ≠ "") : r.owner? = some owner := by
  simp [owner?, Identity.owner?, Identity.session, h, howner]

namespace Store

variable {s s' : Store} {key : StreamKey} {owner : String} {now : Instant} {who : Identity}
  {condition : Condition} {pending : List PendingEvent} {events : List Event} {e : Event}

/-- What the index answers after an append. -/
theorem head?_push (h : s.push now who condition pending = .ok (events, s')) (key : StreamKey) :
    s'.head? key =
      if key = who.key then some { s.headFor who with
        position := (s.headFor who).position + UInt64.ofNat pending.length }
      else s.head? key := by
  obtain ⟨-, -, -, rfl⟩ := push_eq_ok_iff.mp h
  exact lookup_setHead ..

/-- Events that are appended get the owner of their stream. -/
theorem owner_of_mem_push (h : s.push now who condition pending = .ok (events, s'))
    (he : e ∈ events) : e.resourceOwner = (s.headFor who).owner := by
  obtain ⟨-, -, hplace, -⟩ := push_eq_ok_iff.mp h
  exact (key_of_mem_place hplace he).2.1

namespace Sound

theorem owner_headFor (hs : s.Sound) (he : e ∈ s.stream who.key) :
    e.resourceOwner = (s.headFor who).owner := by
  obtain ⟨head, hhead⟩ := hs.exists_head he
  rw [hs.owner _ head hhead e he, headFor, hhead]
  rfl

/-- Whoever names an owner writes to that owner's streams, or to nobody's. -/
theorem owner_of_admitted (hs : s.Sound)
    (hpush : s.push now who condition pending = .ok (events, s'))
    (howner : who.owner? = some owner) (he : e ∈ s.stream who.key) :
    e.resourceOwner = "" ∨ e.resourceOwner = owner := by
  have hpositive : 0 < (s.headFor who).position := by
    rw [position_headFor, UInt64.lt_iff_toNat_lt, hs.latest]
    exact List.length_pos_of_mem he
  have hadmitted : belongsToOther (s.headFor who) who = false := (push_eq_ok_iff.mp hpush).1
  rw [hs.owner_headFor he]
  by_cases hnobody : (s.headFor who).owner = ""
  · exact .inl hnobody
  · simp only [belongsToOther, howner, hpositive, decide_true, Bool.true_and,
      bne_iff_ne.mpr hnobody, Option.any_some, bne_eq_false_iff_eq] at hadmitted
    exact .inr hadmitted.symm

end Sound

/-! ### Streams in the index -/

/-- Every stream in the index has events. An append of no events would enter a stream without any,
and settle whom it belongs to. -/
def Written (s : Store) : Prop := ∀ key head, s.head? key = some head → s.stream key ≠ []

theorem Written.push (h : s.Written) (hpush : s.push now who condition pending = .ok (events, s'))
    (hpending : pending ≠ []) : s'.Written := by
  intro key head hhead
  rw [head?_push hpush] at hhead
  rw [stream_push hpush]
  split at hhead
  · next hkey =>
    have hlength : events.length = pending.length := (push_log hpush).2.1
    have hevents : events ≠ [] := by
      rintro rfl
      exact hpending (List.eq_nil_of_length_eq_zero hlength.symm)
    simp [hkey, hevents]
  · simp [h key head hhead]

/-- Whoever names an owner appends events that are that owner's, or nobody's. -/
theorem Sound.owner_of_appended (hs : s.Sound) (hwritten : s.Written)
    (hpush : s.push now who condition pending = .ok (events, s'))
    (howner : who.owner? = some owner) (he : e ∈ events) :
    e.resourceOwner = "" ∨ e.resourceOwner = owner := by
  rw [owner_of_mem_push hpush he]
  cases hhead : s.head? who.key with
  | none => simp [headFor, hhead, howner]
  | some head =>
    obtain ⟨first, hfirst⟩ := List.exists_mem_of_ne_nil _ (hwritten _ head hhead)
    rw [← hs.owner_headFor hfirst]
    exact hs.owner_of_admitted hpush howner hfirst

end Store

/-! ### What a call knows -/

namespace Caller.Appends

variable {s : Store} {c : Caller} {m : Model} {e : SessionEvent} {stored other : Event}
  {owner : String}

theorem owner_eq (h : c.Appends s m e stored) (howner : c.call.request.owner? = some owner) :
    m.identity.owner? = some owner :=
  Model.owner_of_ofLog h.current howner

/-- Where a call that names an owner appends, the events are that owner's, or nobody's. -/
theorem owner_cases (h : c.Appends s m e stored) (hs : s.Sound)
    (howner : c.call.request.owner? = some owner) (hother : other ∈ s.stream m.identity.key) :
    other.resourceOwner = "" ∨ other.resourceOwner = owner := by
  obtain ⟨now, s', hpush⟩ := h.admitted
  exact hs.owner_of_admitted hpush (h.owner_eq howner) hother

/-- **What a call knows of the stream that it appends to.** Its model has the facts of the whole
stream, unless the call names an owner and the stream belongs to nobody. -/
theorem knows_stream (h : c.Appends s m e stored) (hs : s.Sound)
    (howned : c.call.request.owner? ≠ none →
      ∀ other ∈ s.stream m.identity.key, other.resourceOwner ≠ "") :
    (s.stream m.identity.key).foldlM Facts.apply {} = .ok m.facts := by
  have howner : ∀ owner ∈ (Identity.session c.call.sessionId c.call.resourceOwner).owner?,
      ∀ other ∈ s.stream m.identity.key, other.resourceOwner = owner := by
    intro owner hnamed other hother
    have hsome : c.call.request.owner? = some owner := hnamed
    exact (h.owner_cases hs hsome hother).resolve_left (howned (by simp [hsome]) other hother)
  rw [h.key_eq] at howner ⊢
  rw [← Store.map_facts_load hs howner]
  exact congrArg (Except.map Model.facts) h.current

end Caller.Appends

end SessionLedger
