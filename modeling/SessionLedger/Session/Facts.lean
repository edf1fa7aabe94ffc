import SessionLedger.Instant.Span
import SessionLedger.Session.Event
import SessionLedger.Session.Factor

/-!
# Session facts

What is known about a session from its events. Facts are folded one event at a time, and the rules
differ by field: the first identified user stays, a check keeps the time of its latest success, a
new challenge replaces the one before and an answered one is gone, metadata merges key by key.
Folding goes on behind the end of a session; refusing commands against an ended session is not its
business.

## Main definitions

* `SessionState` — where a session is in its life
* `Facts` — what is known
* `Facts.record` — the facts after one more event
* `Facts.apply` — the same for a stored event
* `Facts.authenticationInstant`, `Facts.factors`, `Facts.isExpired` — what follows from them
-/

namespace SessionLedger

/-- Where a session is in its life. -/
inductive SessionState where
  | uninitialized
  | active
  | terminated
deriving DecidableEq, Repr

namespace SessionState

/-- The written name. -/
def name : SessionState → String
  | uninitialized => "uninitialized"
  | active => "active"
  | terminated => "terminated"

/-- The written names, in the order of declaration. -/
def names : List (String × SessionState) :=
  [uninitialized, active, terminated].map fun s => (s.name, s)

end SessionState

/-- What is known about a session. -/
structure Facts where
  state : SessionState := .uninitialized
  userAgent : Option UserAgent := none
  userId : Option String := none
  userResourceOwner : Option String := none
  userCheckedAt : Option Instant := none
  passwordCheckedAt : Option Instant := none
  intentCheckedAt : Option Instant := none
  webauthnCheckedAt : Option Instant := none
  /-- Means something only once there was a WebAuthn check. -/
  webauthnUserVerified : Bool := false
  totpCheckedAt : Option Instant := none
  tokenId : Option String := none
  metadata : Metadata := ∅
  expiration : Option Instant := none
  challenge : Option Challenge := none
deriving DecidableEq

namespace Facts

/-! ### Folding -/

/-- The facts after a user check: the first identified user stays, and the time is the latest. -/
def identify (f : Facts) (user : CheckedUser) (now : Instant) : Facts :=
  match f.userId with
  | some _ => { f with userCheckedAt := some now }
  | none => { f with
      userId := some user.userId
      userResourceOwner := (some user.resourceOwner).filter (· ≠ "")
      userCheckedAt := some now }

/-- Metadata after one entry: an empty value removes its key. -/
def setEntry (m : Metadata) (entry : String × List UInt8) : Metadata :=
  if entry.2 = [] then m.erase entry.1 else m.insert entry.1 entry.2

/-- Metadata after some entries. -/
def merge (m entries : Metadata) : Metadata := entries.entries.foldl setEntry m

/-- The challenge that an event hands out. -/
def challengeOf (out : HandedOut) (now : Instant) : Challenge :=
  ⟨out.nonce, .ofList out.allowed, out.verification, out.rpId, now⟩

/-- The facts after one more event; `none` if a lifetime leads out of the range of instants. -/
def record (f : Facts) (now : Instant) : SessionEvent → Option Facts
  | .added userAgent => some { f with state := .active, userAgent := userAgent }
  | .userChecked user => some (f.identify user now)
  | .passwordChecked => some { f with passwordCheckedAt := some now }
  | .intentChecked => some { f with intentCheckedAt := some now }
  | .webauthnChallenged out => some { f with challenge := some (challengeOf out now) }
  | .webauthnChecked userVerified => some { f with
      challenge := none
      webauthnCheckedAt := some now
      webauthnUserVerified := userVerified }
  | .totpChecked => some { f with totpCheckedAt := some now }
  | .tokenSet tokenId => some { f with tokenId := some tokenId }
  | .metadataSet entries => some { f with metadata := merge f.metadata entries }
  | .lifetimeSet seconds =>
    ((Span.ofSeconds? seconds).bind now.after).map fun expiration =>
      { f with expiration := some expiration }
  | .terminated => some { f with state := .terminated }

/-- The facts after one more stored event; kinds that a session does not know change nothing. -/
def apply (f : Facts) (e : Event) : Except Error Facts := do
  match ← SessionEvent.decode e with
  | none => .ok f
  | some event =>
    match f.record e.createdAt event with
    | some f' => .ok f'
    | none => .error (.malformed e.kind e.position "lifetime out of range")

theorem apply_of_unknown {e : Event} (h : SessionEvent.Kind.ofName? e.kind = none) (f : Facts) :
    f.apply e = .ok f := by
  simp [apply, SessionEvent.decode_of_unknown h, bind, Except.bind]

/-! ### What follows -/

/-- The times of all factor checks. -/
def checks (f : Facts) : List Instant :=
  [f.passwordCheckedAt, f.webauthnCheckedAt, f.totpCheckedAt, f.intentCheckedAt].filterMap id

/-- The latest of some instants. -/
def latest : List Instant → Option Instant
  | [] => none
  | t :: ts => some (ts.foldl Instant.later t)

/-- When the session's user last proved who they are: the latest of all factor checks. -/
def authenticationInstant (f : Facts) : Option Instant := latest f.checks

/-- The factors that were checked, in the order password, WebAuthn, identity provider, one-time
code. -/
def factors (f : Facts) : List Factor :=
  (if f.passwordCheckedAt.isSome then [.password] else []) ++
    (if f.webauthnCheckedAt.isSome then
      [if f.webauthnUserVerified then .passwordless else .securityKey] else []) ++
    (if f.intentCheckedAt.isSome then [.idp] else []) ++
    (if f.totpCheckedAt.isSome then [.totp] else [])

/-- Whether a challenge is outstanding. -/
def hasChallenge (f : Facts) : Bool := f.challenge.isSome

/-- Whether the session's time is over: from the expiration on, it is. -/
def isExpired (f : Facts) (now : Instant) : Bool := f.expiration.any (· ≤ now)

theorem isExpired_iff {f : Facts} {now : Instant} :
    f.isExpired now = true ↔ ∃ t ∈ f.expiration, t ≤ now := by
  simp [isExpired, Option.any_eq_true]

end Facts

end SessionLedger
