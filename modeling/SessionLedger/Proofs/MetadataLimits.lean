import SessionLedger.Proofs.EventCoding

/-!
# What the limits of metadata come to

The wording of a refusal counts the characters of a metadata key, as the limits of all other texts
do. What is held against the limit is the number of bytes. A character takes at least one byte, so
nothing passes that the wording forbids; and of what the wording allows, that passes whose keys are
short enough in bytes too. For keys in which every character takes one byte there is no difference.

Entries are looked at in the order of their keys, and of each entry the key before the value. The
first entry that breaks a limit decides what is reported, whatever comes after it.

## Main definitions

* `SessionEvent.InWording` — an entry that the wording of the limits allows
* `SessionEvent.entryFault?` — which limit an entry breaks

## Main results

* `utf8ByteSize_eq_length_iff` — when bytes are characters
* `SessionEvent.metadataFault_eq` — the first entry that breaks a limit decides
* `SessionEvent.metadata_within_limits` — what passes, and what is reported of the rest
* `SessionEvent.wide_key_refused` — a key of 101 characters that does not pass
-/

namespace SessionLedger

/-! ### Characters and bytes -/

theorem utf8ByteSize_ofList_cons (c : Char) (cs : List Char) :
    (String.ofList (c :: cs)).utf8ByteSize = c.utf8Size + (String.ofList cs).utf8ByteSize := by
  have hsplit : String.ofList (c :: cs) = String.singleton c ++ String.ofList cs := by
    rw [String.singleton_eq_ofList, ← String.ofList_append]
    rfl
  rw [hsplit, String.utf8ByteSize_append, String.utf8ByteSize_singleton]

theorem length_le_utf8ByteSize (s : String) : s.length ≤ s.utf8ByteSize := by
  rw [← String.ofList_toList (s := s)]
  generalize s.toList = cs
  induction cs with
  | nil => exact Nat.zero_le _
  | cons c cs ih =>
    have hpos := c.utf8Size_pos
    rw [String.length_ofList] at ih ⊢
    rw [utf8ByteSize_ofList_cons, List.length_cons]
    omega

/-- A text has as many bytes as characters just if each character takes one byte. -/
theorem utf8ByteSize_eq_length_iff (s : String) :
    s.utf8ByteSize = s.length ↔ ∀ c ∈ s.toList, c.val ≤ 127 := by
  rw [← String.ofList_toList (s := s)]
  generalize s.toList = cs
  induction cs with
  | nil => simp
  | cons c cs ih =>
    have hpos := c.utf8Size_pos
    have hrest := length_le_utf8ByteSize (String.ofList cs)
    rw [String.length_ofList, String.toList_ofList] at *
    rw [utf8ByteSize_ofList_cons, List.length_cons, List.forall_mem_cons, ← ih,
      ← Char.utf8Size_eq_one_iff]
    omega

theorem utf8ByteSize_replicate (n : Nat) (c : Char) :
    (String.ofList (List.replicate n c)).utf8ByteSize = n * c.utf8Size := by
  induction n with
  | zero => simp
  | succ n ih => rw [List.replicate_succ, utf8ByteSize_ofList_cons, ih, Nat.succ_mul, Nat.add_comm]

namespace SessionEvent

variable {entry : String × List UInt8} {l : List (String × List UInt8)}

/-! ### One entry -/

/-- The wording of the limits allows the entry: its key has 1 to 200 characters, and its value has
at most 65536 bytes. -/
def InWording (entry : String × List UInt8) : Prop :=
  (1 ≤ entry.1.length ∧ entry.1.length ≤ 200) ∧ entry.2.length ≤ 65536

/-- The limit that an entry breaks, the key before the value. -/
def entryFault? (entry : String × List UInt8) : Option Fault :=
  if entry.1 = "" ∨ Limits.metadataKeyBytes < entry.1.utf8ByteSize then some .metadataKey
  else if Limits.metadataValueBytes < entry.2.length then
    some (.metadataValue entry.1 entry.2.length)
  else none

/-- An entry breaks no limit just if the wording allows it and its key is short enough in bytes. -/
theorem entryFault?_eq_none_iff :
    entryFault? entry = none ↔ InWording entry ∧ entry.1.utf8ByteSize ≤ 200 := by
  have hbytes := length_le_utf8ByteSize entry.1
  have hempty : entry.1 = "" ↔ entry.1.length = 0 := String.length_eq_zero_iff.symm
  have hkeys : Limits.metadataKeyBytes = 200 := rfl
  have hvalues : Limits.metadataValueBytes = 65536 := rfl
  rw [entryFault?, InWording]
  split
  · next hkey =>
    rw [hempty] at hkey
    simp only [reduceCtorEq, false_iff]
    omega
  · next hkey =>
    rw [hempty] at hkey
    split
    · simp only [reduceCtorEq, false_iff]
      omega
    · simp only [true_iff]
      omega

/-- A key in which every character takes one byte is as long as it is worded. -/
theorem entryFault?_of_ascii (hascii : ∀ c ∈ entry.1.toList, c.val ≤ 127) :
    entryFault? entry = none ↔ InWording entry := by
  rw [entryFault?_eq_none_iff, (utf8ByteSize_eq_length_iff _).mpr hascii]
  exact and_iff_left_of_imp fun hwording => hwording.1.2

/-! ### All entries -/

/-- The first entry that breaks a limit decides. -/
theorem metadataFault_eq (l : List (String × List UInt8)) :
    metadataFault l = (l.findSome? entryFault?).toList := by
  induction l with
  | nil => rfl
  | cons entry l ih =>
    rw [metadataFault, List.findSome?_cons, entryFault?]
    split
    · rfl
    · split
      · rfl
      · exact ih

theorem faults_metadataSet (entries : Metadata) :
    (metadataSet entries).faults = (entries.entries.findSome? entryFault?).toList :=
  metadataFault_eq entries.entries

/-- **What passes the limits of metadata, and what is reported of the rest.** Metadata may be
appended just if the wording of the limits allows each of its entries and each key is short enough
in bytes, and just then its stored form is read back. If every character of the keys takes one byte,
it is what the wording allows. Otherwise the first entry that breaks a limit is reported, when the
metadata is checked and when its stored form is read. -/
theorem metadata_within_limits (entries : Metadata) (envelope : Event) :
    ((metadataSet entries).validate = .ok () ↔
        ∀ entry ∈ entries.entries, InWording entry ∧ entry.1.utf8ByteSize ≤ 200) ∧
      (decode (envelope.carrying (metadataSet entries)) = .ok (some (metadataSet entries)) ↔
        ∀ entry ∈ entries.entries, InWording entry ∧ entry.1.utf8ByteSize ≤ 200) ∧
      ((∀ entry ∈ entries.entries, ∀ c ∈ entry.1.toList, c.val ≤ 127) →
        ((metadataSet entries).validate = .ok () ↔ ∀ entry ∈ entries.entries, InWording entry)) ∧
      ∀ fault, entries.entries.findSome? entryFault? = some fault →
        (metadataSet entries).validate =
            .error (.validation ("session.metadata.set: " ++ fault.message)) ∧
          decode (envelope.carrying (metadataSet entries)) =
            .error (.malformed "session.metadata.set" envelope.position fault.message) := by
  have hnone : (metadataSet entries).faults = [] ↔
      ∀ entry ∈ entries.entries, entryFault? entry = none := by
    rw [faults_metadataSet, Option.toList_eq_nil_iff, List.findSome?_eq_none_iff]
  have hvalid : (metadataSet entries).faults = [] ↔
      ∀ entry ∈ entries.entries, InWording entry ∧ entry.1.utf8ByteSize ≤ 200 :=
    hnone.trans (forall₂_congr fun entry _ => entryFault?_eq_none_iff)
  refine ⟨validate_eq_ok_iff.trans hvalid, ?_, fun hascii => ?_, fun fault hfault => ?_⟩
  · rw [decode_carrying, ← hvalid]
    split
    · next hfaults => simp [hfaults]
    · next hfaults => simp [hfaults]
  · rw [validate_eq_ok_iff, hnone]
    exact forall₂_congr fun entry hentry => entryFault?_of_ascii (hascii entry hentry)
  · have hfaults : (metadataSet entries).faults = [fault] := by
      rw [faults_metadataSet, hfault]
      rfl
    rw [decode_carrying, validate, hfaults]
    exact ⟨rfl, rfl⟩

/-- Metadata of one entry. -/
def oneEntry (key : String) (value : List UInt8) : Metadata :=
  ⟨[(key, value)], List.pairwise_singleton _ _⟩

theorem faults_oneEntry (key : String) (value : List UInt8) :
    (metadataSet (oneEntry key value)).faults = (entryFault? (key, value)).toList := by
  rw [faults_metadataSet, oneEntry, List.findSome?_singleton]

theorem inWording_replicate {n size : Nat} {c : Char} {b : UInt8} (hn : 1 ≤ n ∧ n ≤ 200)
    (hsize : size ≤ 65536) : ∀ entry ∈ (oneEntry (String.ofList (List.replicate n c))
      (List.replicate size b)).entries, InWording entry := by
  intro entry hentry
  rw [List.mem_singleton.mp hentry]
  simpa only [InWording, String.length_ofList, List.length_replicate] using ⟨hn, hsize⟩

/-- The longest entry in which every character takes one byte, and an entry without a key. -/
theorem metadata_within_limits_longest :
    let longest := oneEntry (String.ofList (List.replicate 200 'k')) (List.replicate 65536 0)
    ((∀ entry ∈ longest.entries, ∀ c ∈ entry.1.toList, c.val ≤ 127) ∧
      (metadataSet longest).validate = .ok ()) ∧
    (oneEntry "" [1]).entries.findSome? entryFault? = some .metadataKey ∧
      (metadataSet (oneEntry "" [1])).validate = .error (.validation
        "session.metadata.set: metadata: metadata key must be 1-200 chars") := by
  intro longest
  let envelope : Event := ⟨"session", "s", "org", "", .null, 1, .epoch, ""⟩
  have hascii : ∀ entry ∈ longest.entries, ∀ c ∈ entry.1.toList, c.val ≤ 127 := by
    intro entry hentry c hc
    rw [List.mem_singleton.mp hentry, String.toList_ofList] at hc
    rw [List.eq_of_mem_replicate hc]
    decide
  have hunnamed : (oneEntry "" [1]).entries.findSome? entryFault? = some .metadataKey := by decide
  refine ⟨⟨hascii, ?_⟩, hunnamed, ?_⟩
  · exact ((metadata_within_limits longest envelope).2.2.1 hascii).mpr
      (inWording_replicate (by decide) (by decide))
  · exact ((metadata_within_limits (oneEntry "" [1]) envelope).2.2.2 _ hunnamed).1

/-- A key of 101 characters that the wording allows and that does not pass, because every one of
them takes two bytes. -/
theorem wide_key_refused :
    let wide := oneEntry (String.ofList (List.replicate 101 'é')) (List.replicate 1 1)
    (∀ entry ∈ wide.entries, InWording entry) ∧
      (metadataSet wide).validate = .error (.validation
        "session.metadata.set: metadata: metadata key must be 1-200 chars") ∧
      ∀ envelope : Event, decode (envelope.carrying (metadataSet wide)) = .error (.malformed
        "session.metadata.set" envelope.position
        "metadata: metadata key must be 1-200 chars") := by
  intro wide
  have hsize : Limits.metadataKeyBytes <
      (String.ofList (List.replicate 101 'é')).utf8ByteSize := by
    rw [utf8ByteSize_replicate]
    decide
  have hfaults : (metadataSet wide).faults = [.metadataKey] := by
    refine (faults_oneEntry _ _).trans ?_
    rw [entryFault?, if_pos (.inr hsize)]
    rfl
  refine ⟨inWording_replicate (by decide) (by decide), ?_, fun envelope => ?_⟩
  · rw [validate, hfaults]
    rfl
  · rw [decode_carrying, hfaults]
    rfl

end SessionEvent

end SessionLedger
