import SessionLedger.Event.Format
import SessionLedger.Proofs.EventCoding
import SessionLedger.Proofs.InstantText

/-!
# The exported form of events, read back

What is written of an event is read as that event, and so is every object that restates it: with the
members in any order, with members that events do not have, and without the data or the creator of
an event that has none.

Reading an object fills in a draft member by member. `Json.Record.Rewrites` says of a record and a
writer that each field puts its own part of the written value into the draft and leaves the other
parts alone. Then the order does not matter: whatever was filled in stays, and a draft that has all
parts of a value is that value.

## Main definitions

* `Json.Restates` — an object says what was written
* `Json.Record.Rewrites` — the fields of a record fill in what a writer wrote
* `Event.members`, `PendingEvent.members` — the members of the exported form

## Main results

* `Json.Decoder.undoes_word64`, `undoes_instant` — positions and instants are read back
* `Json.Record.ofMembers_of_restates` — an object that restates a value is read as it
* `exported_form_kept` — events and pending events keep their exported form
-/

namespace SessionLedger

namespace Json

namespace Decoder

theorem undoes_word64 : Undoes word64 fun n => .int n.toNat := by
  intro n
  have hn : n.toNat < 18446744073709551616 := n.toNat_lt
  have hint : int .u64 (.int n.toNat) = .ok (n.toNat : Int) :=
    int_of_mem (by simp [IntRange.u64]) (by simp only [IntRange.u64]; omega)
  simp [word64, hint, bind, Except.bind, pure, Except.pure]

theorem undoes_instant : Undoes instant fun t => .str t.write := by
  intro t
  simp only [instant, Instant.read_write]

end Decoder

/-- A field takes what was written for its decoder, and sets its part of the draft. -/
theorem Field.fill_of_undoes {α ρ : Type} {decoder : Decoder α} {write : α → Json}
    (h : decoder.Undoes write) (name : String) (presence : Presence) (set : α → ρ → ρ) (a : α)
    (draft : ρ) :
    (Field.of name presence decoder set).fill (write a) draft = .ok (set a draft) := by
  simp only [Field.of, h a, bind, Except.bind, pure, Except.pure]

/-! ### Objects that say the same -/

/-- The members of an object. -/
def members : Json → List (String × Json)
  | .obj members => members
  | _ => []

/-- The members that stand for nothing, and may be left out. -/
def unsaid : List (String × Json) := [("data", .null), ("creator", .str "")]

/-- The members say what was written: what they have under a written name is what was written under
it, and of what was written nothing is missing but what stands for nothing. -/
structure Restates (written members : List (String × Json)) : Prop where
  said : ∀ m ∈ members, m.1 ∈ written.map (·.1) → m ∈ written
  told : ∀ m ∈ written, m ∈ members ∨ m ∈ unsaid

instance (written members : List (String × Json)) : Decidable (Restates written members) :=
  decidable_of_iff ((∀ m ∈ members, m.1 ∈ written.map (·.1) → m ∈ written) ∧
      ∀ m ∈ written, m ∈ members ∨ m ∈ unsaid)
    ⟨fun h => ⟨h.1, h.2⟩, fun h => ⟨h.said, h.told⟩⟩

theorem Restates.refl {written : List (String × Json)} : Restates written written :=
  ⟨fun _ hm _ => hm, fun _ hm => .inl hm⟩

namespace Record

variable {ρ : Type} {r : Record ρ} {write : ρ → List (String × Json)} {a d : ρ}
  {members : List (String × Json)}

/-- The fields of the record fill in what the writer wrote. -/
structure Rewrites (r : Record ρ) (write : ρ → List (String × Json)) : Prop where
  /-- Every field is written, and nothing else. -/
  names : ∀ a, (write a).map (·.1) = r.fields.map (·.name)
  /-- What was written of a value puts that part of it into the draft, beside the parts that the
  draft already had. -/
  fill : ∀ a d, ∀ m ∈ write a, ∃ f d', r.field? m.1 = some f ∧ f.fill m.2 d = .ok d' ∧
    m ∈ write d' ∧ ∀ m' ∈ write a, m' ∈ write d → m' ∈ write d'
  /-- What may be left out is in the draft from the beginning. -/
  draft : ∀ m ∈ unsaid, m ∈ write r.draft
  /-- What may be left out is not required. -/
  optional : ∀ f ∈ r.fields, f.presence = .required → ∀ m ∈ unsaid, f.name ≠ m.1
  /-- A draft with all parts of a value is that value. -/
  full : ∀ a d, (∀ m ∈ write a, m ∈ write d) → d = a

/-- What was written of a value, or a member that the record does not have, is filled in. -/
theorem fillMember_of_said (h : r.Rewrites write) {m : String × Json}
    (hm : m.1 ∈ (write a).map (·.1) → m ∈ write a) :
    ∃ d', r.fillMember d m = .ok d' ∧
      ∀ m' ∈ write a, m' = m ∨ m' ∈ write d → m' ∈ write d' := by
  rw [h.names] at hm
  by_cases hfield : m.1 ∈ r.fields.map (·.name)
  · obtain ⟨f, d', hf, hfill, hput, hkept⟩ := h.fill a d m (hm hfield)
    refine ⟨d', by simp only [fillMember, hf, hfill], ?_⟩
    rintro m' hm' (rfl | hbefore)
    · exact hput
    · exact hkept m' hm' hbefore
  · have hnone : r.field? m.1 = none := by
      simp only [field?, List.find?_eq_none, beq_iff_eq]
      intro f hf hname
      exact hfield (List.mem_map.mpr ⟨f, hf, hname⟩)
    refine ⟨d, by simp only [fillMember, hnone], ?_⟩
    rintro m' hm' (rfl | hbefore)
    · exact absurd (h.names a ▸ List.mem_map_of_mem hm') hfield
    · exact hbefore

/-- Member by member, the draft takes on what was written and keeps what it has. -/
theorem foldlM_fillMember (h : r.Rewrites write)
    (hsaid : ∀ m ∈ members, m.1 ∈ (write a).map (·.1) → m ∈ write a) :
    ∃ d', members.foldlM r.fillMember d = .ok d' ∧
      ∀ m ∈ write a, m ∈ members ∨ m ∈ write d → m ∈ write d' := by
  induction members generalizing d with
  | nil => exact ⟨d, rfl, fun m _ hm => hm.resolve_left List.not_mem_nil⟩
  | cons first rest ih =>
    obtain ⟨hfirst, hrest⟩ := List.forall_mem_cons.mp hsaid
    obtain ⟨next, hnext, hput⟩ := fillMember_of_said h (d := d) hfirst
    obtain ⟨d', hfold, hkept⟩ := ih (d := next) hrest
    refine ⟨d', ?_, fun m hm hthere => hkept m hm ?_⟩
    · rw [List.foldlM_cons, hnext]
      exact hfold
    · rcases hthere with hmem | hbefore
      · rcases List.mem_cons.mp hmem with rfl | hmem
        · exact .inr (hput m hm (.inl rfl))
        · exact .inl hmem
      · exact .inr (hput m hm (.inr hbefore))

/-- No required field is missing from an object that restates a value. -/
theorem complete_of_told (h : r.Rewrites write) (htold : ∀ m ∈ write a, m ∈ members ∨ m ∈ unsaid) :
    r.complete (members.map (·.1)) d = .ok d := by
  have hnone : (r.fields.find? fun f =>
      f.presence == .required && !(members.map (·.1)).contains f.name) = none := by
    simp only [List.find?_eq_none, Bool.and_eq_true, beq_iff_eq, Bool.not_eq_true',
      List.contains_eq_mem, decide_eq_false_iff_not]
    rintro f hf ⟨hrequired, hmissing⟩
    have hname : f.name ∈ (write a).map (·.1) := h.names a ▸ List.mem_map_of_mem hf
    obtain ⟨m, hm, hm'⟩ := List.mem_map.mp hname
    rcases htold m hm with hgiven | hunsaid
    · exact hmissing (hm' ▸ List.mem_map_of_mem hgiven)
    · exact h.optional f hf hrequired m hunsaid hm'.symm
  simp only [complete, hnone]

/-- **An object that restates a value is read as that value.** -/
theorem ofMembers_of_restates (h : r.Rewrites write) (hsame : Restates (write a) members) :
    r.ofMembers members = .ok a := by
  obtain ⟨d, hfold, hfilled⟩ := foldlM_fillMember h (d := r.draft) hsame.said
  have hfull : d = a := by
    refine h.full a d fun m hm => hfilled m hm ?_
    exact (hsame.told m hm).imp_right (h.draft m)
  simp only [ofMembers, hfold, bind, Except.bind, hfull]
  exact complete_of_told h hsame.told

end Record

end Json

/-! ### Events -/

section Events

open Json.Decoder Json.Field

/- The members of the exported form are known: these say which there are. -/
attribute [local simp] Event.toJson PendingEvent.toJson Json.members Json.unsaid Json.Field.of

/-- The fields of an event fill in its exported form. -/
theorem Event.rewrites : record.Rewrites fun e => e.toJson.members where
  names _ := rfl
  fill := by
    intro a d m hm
    simp only [toJson, Json.members, List.mem_cons, List.not_mem_nil, or_false] at hm
    -- each member finds its field by its name, and the field's decoder undoes how it was written
    rcases hm with rfl | rfl | rfl | rfl | rfl | rfl | rfl | rfl
    · exact ⟨_, _, rfl, fill_of_undoes undoes_string .., by simp, by simp⟩
    · exact ⟨_, _, rfl, fill_of_undoes undoes_string .., by simp, by simp⟩
    · exact ⟨_, _, rfl, fill_of_undoes undoes_string .., by simp, by simp⟩
    · exact ⟨_, _, rfl, fill_of_undoes undoes_string .., by simp, by simp⟩
    · exact ⟨_, _, rfl, rfl, by simp, by simp⟩
    · exact ⟨_, _, rfl, fill_of_undoes undoes_word64 .., by simp, by simp⟩
    · exact ⟨_, _, rfl, fill_of_undoes undoes_instant .., by simp, by simp⟩
    · exact ⟨_, _, rfl, fill_of_undoes undoes_string .., by simp, by simp⟩
  draft := by simp [record]
  optional := by simp [record]
  full := by
    intro a d h
    have hparts : a.aggregateType = d.aggregateType ∧ a.aggregateId = d.aggregateId ∧
        a.resourceOwner = d.resourceOwner ∧ a.kind = d.kind ∧ a.data = d.data ∧
        (a.position.toNat : Int) = d.position.toNat ∧ a.createdAt.write = d.createdAt.write ∧
        a.creator = d.creator := by
      simpa using h
    obtain ⟨_, _, _, _, _, n, t, _⟩ := a
    obtain ⟨_, _, _, _, _, n', t', _⟩ := d
    obtain ⟨rfl, rfl, rfl, rfl, rfl, hposition, hcreated, rfl⟩ := hparts
    have hn : n = n' := UInt64.toNat_inj.mp (Int.ofNat.inj hposition)
    have ht : t = t' := Instant.write_injective hcreated
    rw [hn, ht]

/-- The fields of a pending event fill in its exported form. -/
theorem PendingEvent.rewrites : record.Rewrites fun p => p.toJson.members where
  names _ := rfl
  fill := by
    intro a d m hm
    simp only [toJson, Json.members, List.mem_cons, List.not_mem_nil, or_false] at hm
    rcases hm with rfl | rfl | rfl
    · exact ⟨_, _, rfl, fill_of_undoes undoes_string .., by simp, by simp⟩
    · exact ⟨_, _, rfl, rfl, by simp, by simp⟩
    · exact ⟨_, _, rfl, fill_of_undoes undoes_string .., by simp, by simp⟩
  draft := by simp [record]
  optional := by simp [record]
  full := by
    intro a d h
    have hparts : a.kind = d.kind ∧ a.data = d.data ∧ a.creator = d.creator := by
      simpa using h
    obtain ⟨_, _, _⟩ := a
    obtain ⟨_, _, _⟩ := d
    obtain ⟨rfl, rfl, rfl⟩ := hparts
    rfl

end Events

/-- **The exported form keeps events.** What is written of an event is read as that event, and what
is written of a pending event as that pending event. It does not matter in which order the members
stand, whether data is left out that is `null`, or a creator that is empty, nor what else the object
has. -/
theorem exported_form_kept (e : Event) (p : PendingEvent) :
    Event.ofJson e.toJson = .ok e ∧ PendingEvent.ofJson p.toJson = .ok p ∧
      (∀ members, Json.Restates e.toJson.members members →
        Event.ofJson (.obj members) = .ok e) ∧
      ∀ members, Json.Restates p.toJson.members members →
        PendingEvent.ofJson (.obj members) = .ok p := by
  have hevent : ∀ members, Json.Restates e.toJson.members members →
      Event.ofJson (.obj members) = .ok e :=
    fun _ h => Json.Record.ofMembers_of_restates Event.rewrites h
  have hpending : ∀ members, Json.Restates p.toJson.members members →
      PendingEvent.ofJson (.obj members) = .ok p :=
    fun _ h => Json.Record.ofMembers_of_restates PendingEvent.rewrites h
  exact ⟨hevent _ .refl, hpending _ .refl, hevent, hpending⟩

/-- An event of the first year that there is, in a leap second, without data and creator. -/
def earliestEvent : Event where
  aggregateType := "session"
  aggregateId := "s"
  resourceOwner := "org"
  kind := "session.terminated"
  data := .null
  position := 18446744073709551615
  createdAt := { day := Instant.firstDay, second := 59, nanos := 1500000000 }
  creator := ""

/-- The event is read from a sorted object, with a note, and without its data and its creator; as
a pending event it is read from its kind alone. -/
theorem exported_form_kept_earliest :
    let stated := [("aggregate_id", .str "s"), ("aggregate_type", .str "session"),
      ("created_at", .str "-262143-01-01T00:00:60.500Z"), ("kind", .str "session.terminated"),
      ("note", .arr [.null]), ("position", .int 18446744073709551615),
      ("resource_owner", .str "org")]
    let pending : PendingEvent := ⟨earliestEvent.kind, earliestEvent.data, earliestEvent.creator⟩
    Json.Restates earliestEvent.toJson.members stated ∧
      Json.Restates pending.toJson.members [("kind", .str "session.terminated")] ∧
      Event.ofJson (.obj stated) = .ok earliestEvent ∧
      PendingEvent.ofJson (.obj [("kind", .str "session.terminated")]) = .ok pending := by
  intro stated pending
  have hstated : Json.Restates earliestEvent.toJson.members stated := by decide
  have hpending : Json.Restates pending.toJson.members [("kind", .str "session.terminated")] := by
    decide
  obtain ⟨-, -, hevent, hread⟩ := exported_form_kept earliestEvent pending
  exact ⟨hstated, hpending, hevent _ hstated, hread _ hpending⟩

end SessionLedger
