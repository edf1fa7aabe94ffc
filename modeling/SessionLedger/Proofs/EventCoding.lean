import SessionLedger.Session.Facts
import Mathlib.Tactic.Common

/-!
# The stored form of session events

What is written into the log for a session event is read back as that event exactly when the event
keeps to the limits, and what is read from the log keeps to the limits and can be written again
without loss.

## Decoders and writers

`Json.Decoder.Undoes decode write` says that a decoder reads back whatever a writer has written.
The simple types have it, and lists, optional values and maps inherit it from their items, so the
payload of a kind is read back once each of its fields is. Nothing here looks at faults: an event
is read by its kind first, and its limits are held against it afterwards.

## Main definitions

* `Json.Decoder.Undoes` — reading is the inverse of writing
* `Event.carrying` — an envelope with the stored form of an event in it

## Main results

* `Json.Decoder.undoes_list`, `undoes_optional`, `undoes_keyMap` — containers inherit it
* `SessionEvent.ofPayload_payload` — every payload is read back, within the limits or not
* `SessionEvent.decode_carrying` — the stored form of an event, decoded
-/

namespace SessionLedger

namespace Json

namespace Decoder

variable {α : Type}

/-- The decoder reads back what the writer has written. -/
def Undoes (decode : Decoder α) (write : α → Json) : Prop := ∀ a, decode (write a) = .ok a

/-! ### Simple types -/

theorem undoes_string : Undoes string .str := fun _ => rfl

theorem undoes_bool : Undoes bool .bool := fun _ => rfl

theorem int_of_mem {range : IntRange} {n : Int} (hlow : range.low ≤ n) (hhigh : n ≤ range.high) :
    int range (.int n) = .ok n := by
  simp [int, hlow, hhigh]

theorem undoes_byte : Undoes byte fun b => .int b.toNat := by
  intro b
  have hb : b.toNat < 256 := b.toNat_lt
  have hint : int .u8 (.int b.toNat) = .ok (b.toNat : Int) :=
    int_of_mem (by simp [IntRange.u8]) (by simp only [IntRange.u8]; omega)
  simp [byte, hint, bind, Except.bind, pure, Except.pure]

theorem undoes_signed64 : Undoes signed64 fun n => .int n.toInt := by
  intro n
  have hint : int .i64 (.int n.toInt) = .ok n.toInt :=
    int_of_mem (by have := n.le_toInt; simp only [IntRange.i64]; omega)
      (by have := n.toInt_lt; simp only [IntRange.i64]; omega)
  simp [signed64, hint, bind, Except.bind, pure, Except.pure]

/-! ### Containers -/

variable {item : Decoder α} {write : α → Json}

theorem mapM_map_of_undoes (h : Undoes item write) (l : List α) :
    (l.map write).mapM item = .ok l := by
  induction l with
  | nil => rfl
  | cons a l ih =>
    rw [List.map_cons, List.mapM_cons, h a, ih]
    rfl

theorem undoes_list (h : Undoes item write) : Undoes (list item) fun l => .arr (l.map write) :=
  mapM_map_of_undoes h

theorem undoes_bytes : Undoes bytes Challenge.bytesToJson := undoes_list undoes_byte

/-- A value that may be missing is read back if `null` stands for nothing else. -/
theorem undoes_optional (h : Undoes item write) (hnull : ∀ a, write a ≠ .null) :
    Undoes (optional item) fun o => o.elim .null write := by
  intro o
  cases o with
  | none => rfl
  | some a =>
    have hread : optional item (write a) = some <$> item (write a) := by
      cases hw : write a with
      | null => exact absurd hw (hnull a)
      | _ => rfl
    change optional item (write a) = .ok (some a)
    rw [hread, h a]
    rfl

/-- The members of a written map are read back one by one, in their order. -/
theorem mapM_members_of_undoes (h : Undoes item write) (l : List (String × α)) :
    ((l.map fun (k, a) => (k, write a)).mapM fun (k, v) => return (k, ← item v)) =
      (.ok l : Except Mismatch _) := by
  induction l with
  | nil => rfl
  | cons e l ih =>
    obtain ⟨k, a⟩ := e
    rw [List.map_cons, List.mapM_cons, ih]
    simp [h a, bind, Except.bind, pure, Except.pure]

theorem undoes_keyMap (h : Undoes item write) :
    Undoes (keyMap item) fun m => .obj (m.entries.map fun (k, a) => (k, write a)) := by
  intro m
  simp only [keyMap]
  rw [mapM_members_of_undoes h]
  change Except.ok (KeyMap.ofList m.entries) = _
  rw [KeyMap.ofList_entries]

/-- A written name is read back if it is found at its own place in the table. -/
theorem undoes_variant {table : List (String × α)} {name : α → String}
    (h : ∀ a, KeyMap.find? (name a) table = some a) :
    Undoes (variant table) fun a => .str (name a) := by
  intro a
  simp only [variant, named, h]

end Decoder

end Json

/-! ### Payloads

Each payload is an object that has every field of its record. So no field is missing, and each
member is read by the decoder of its field alone. -/

namespace SessionEvent

open Json.Decoder

section Payload

/- Reading a record from an object with known keys is a computation: these say how to do it. -/
attribute [local simp] Json.Record.decode Json.Record.ofMembers Json.Record.fillMember
  Json.Record.field? Json.Record.complete Json.Field.of ofPayload kind payload bind Except.bind
  pure Except.pure Functor.map Except.map

theorem undoes_text : (Json.Decoder.optional .string).Undoes UserAgent.textToJson :=
  undoes_optional undoes_string fun _ h => by cases h

theorem undoes_userAgent : UserAgent.record.decode.Undoes UserAgent.toJson := by
  intro u
  have hheader := undoes_keyMap (undoes_list undoes_string) u.header
  simp [UserAgent.toJson, UserAgent.record, undoes_text _, hheader]

/-- Every payload is read back, whether or not it keeps to the limits. -/
theorem ofPayload_payload (e : SessionEvent) : ofPayload e.kind e.payload = .ok e := by
  cases e with
  | passwordChecked => rfl
  | intentChecked => rfl
  | totpChecked => rfl
  | terminated => rfl
  | added userAgent =>
    have hagent := undoes_optional undoes_userAgent (fun _ => nofun) userAgent
    simp [addedRecord, hagent]
  | userChecked user => simp [userRecord, undoes_string _]
  | webauthnChallenged out =>
    have hallowed := undoes_list undoes_bytes out.allowed
    have hverification := undoes_variant UserVerification.find?_name out.verification
    simp [handedOutRecord, undoes_string _, hallowed, hverification]
  | webauthnChecked userVerified => simp [verifiedRecord, undoes_bool _]
  | tokenSet tokenId => simp [tokenRecord, undoes_string _]
  | metadataSet entries =>
    have hentries := undoes_keyMap undoes_bytes entries
    simp [metadataRecord, hentries]
  | lifetimeSet seconds => simp [lifetimeRecord, undoes_signed64 _]

/-- The kind that is read with a payload is the kind of the event that is read. -/
theorem kind_of_ofPayload {k : Kind} {data : Json} {e : SessionEvent}
    (h : ofPayload k data = .ok e) : e.kind = k := by
  have hmap : ∀ {α : Type} {x : Except Json.Mismatch α} {f : α → SessionEvent},
      (∀ a, (f a).kind = k) → f <$> x = .ok e → e.kind = k := by
    intro α x f hf hx
    cases x with
    | error m => cases hx
    | ok a => cases hx; exact hf a
  cases k with
  | passwordChecked | intentChecked | totpChecked | terminated => cases h; rfl
  | _ => exact hmap (fun _ => rfl) h

end Payload

theorem storedPayload_payload (e : SessionEvent) : storedPayload e.payload = e.payload := by
  cases e <;> rfl

/-! ### Stored events -/

/-- What is read from a stored event of a known kind is the event of its payload, if that keeps to
the limits. -/
theorem decode_eq_some_iff {stored : Event} {e : SessionEvent} :
    decode stored = .ok (some e) ↔
      stored.kind = e.kind.name ∧ ofPayload e.kind (storedPayload stored.data) = .ok e ∧
        e.faults = [] := by
  constructor
  · intro h
    rw [decode] at h
    split at h
    · cases h
    · next k hk =>
      split at h
      · cases h
      · next e' he' =>
        split at h
        · next hf =>
          cases h
          have hkind := kind_of_ofPayload he'
          subst hkind
          exact ⟨(Kind.name_of_ofName? hk).symm, he', by simpa using hf⟩
        · cases h
  · rintro ⟨hkind, hread, hfaults⟩
    simp [decode, hkind, hread, hfaults]

theorem decode_eq_none_iff {stored : Event} :
    decode stored = .ok none ↔ Kind.ofName? stored.kind = none := by
  refine ⟨fun h => ?_, decode_of_unknown⟩
  rw [decode] at h
  split at h
  · next hkind => exact hkind
  · split at h
    · cases h
    · split at h <;> cases h

end SessionEvent

/-- An envelope with the stored form of a session event in it. -/
def Event.carrying (envelope : Event) (e : SessionEvent) : Event :=
  { envelope with kind := e.toPending.kind, data := e.toPending.data }

namespace SessionEvent

/-- The stored form is read back as the event it stands for, or refused for the limits that the
event breaks. -/
theorem decode_carrying (e : SessionEvent) (envelope : Event) :
    decode (envelope.carrying e) =
      if e.faults = [] then .ok (some e)
      else .error (.malformed e.kind.name envelope.position (faultsMessage e.faults)) := by
  have hread : ofPayload e.kind (storedPayload e.payload) = .ok e := by
    rw [storedPayload_payload, ofPayload_payload]
  simp [decode, Event.carrying, toPending, hread]

/-- **Writing, checking and reading agree.** Whatever an event holds and whatever envelope it is
stored in, its stored form is read back as the event itself if the event may be appended, and is
refused at the envelope's position otherwise. And what is read from a stored event in any form may
be appended, is of the stored kind, and is read again once its own form replaces the stored one. -/
theorem coding_agrees (e : SessionEvent) (envelope stored : Event) :
    decode (envelope.carrying e) =
        (match e.validate with
        | .ok () => .ok (some e)
        | .error _ => .error (.malformed e.kind.name envelope.position (faultsMessage e.faults))) ∧
      (decode stored = .ok (some e) →
        e.validate = .ok () ∧ e.kind.name = stored.kind ∧
          decode { stored with data := e.toPending.data } = .ok (some e)) := by
  constructor
  · rw [decode_carrying]
    by_cases hf : e.faults = []
    · rw [if_pos hf, validate_eq_ok_iff.mpr hf]
    · rw [if_neg hf]
      simp [validate, hf]
  · intro h
    obtain ⟨hkind, hread, hfaults⟩ := decode_eq_some_iff.mp h
    refine ⟨validate_eq_ok_iff.mpr hfaults, hkind.symm, ?_⟩
    have hsame : ({ stored with data := e.toPending.data } : Event) = stored.carrying e := by
      rw [Event.carrying, toPending_kind, ← hkind]
    rw [hsame, decode_carrying, if_pos hfaults]

/-- A challenge that was stored as an array, its verification as an object, is stored again as an
object without loss. -/
theorem coding_agrees_array :
    let out : HandedOut := ⟨"n1", [[1, 2], []], .required, "example.com"⟩
    let stored : Event := ⟨"session", "s1", "org-1", "session.webAuthN.challenged",
      .arr [.str "n1", .arr [.arr [.int 1, .int 2], .arr []], .obj [("required", .null)],
        .str "example.com"], 7, .epoch, ""⟩
    decode stored = .ok (some (.webauthnChallenged out)) ∧
      decode { stored with data := (webauthnChallenged out).toPending.data } =
        .ok (some (.webauthnChallenged out)) := by
  intro out stored
  have hread : decode stored = .ok (some (.webauthnChallenged out)) := rfl
  exact ⟨hread, ((coding_agrees (.webauthnChallenged out) stored stored).2 hread).2.2⟩

end SessionEvent

end SessionLedger
