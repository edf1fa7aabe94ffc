import SessionLedger.Command.Basic

/-!
# Decisions

What a command leads to, given a model of its session: a refusal, events to be appended, or a
question to somebody else first. Whoever wants to check a factor needs an active session with a
user, and the verifier is asked only then.

## Main definitions

* `Refusal` — why a command is refused
* `Check`, `Verdict` — what the verifier is asked, and what it answers
* `Decision` — what a command leads to
* `Command.decide` — the decision
* `Check.conclude` — the events that a verdict justifies
-/

namespace SessionLedger

/-! ### Refusals -/

/-- Why a command is refused. -/
inductive Refusal where
  | notFound (sessionId : String)
  | alreadyExists (sessionId : String)
  | ended
  | expired
  | noUser
  | differentUser
  | wrongToken
  | noChallenge
  | checkFailed (factor : String)
  | verificationRequired
deriving DecidableEq, Repr

/-- The error that the caller gets. -/
def Refusal.error : Refusal → Error
  | notFound id => .session .notFound ("session " ++ id ++ " not found")
  | alreadyExists id => .session .alreadyExists ("session " ++ id ++ " already exists")
  | ended => .session .terminated "session ended"
  | expired => .session .terminated "session expired"
  | noUser => .session .userMissing "no user checked on session"
  | differentUser => .session .permissionDenied "session already identified a different user"
  | wrongToken => .session .permissionDenied "token does not match session"
  | noChallenge => .check .challengeMissing "no webauthn challenge outstanding"
  | checkFailed factor => .check .invalidCredentials (factor ++ " check failed")
  | verificationRequired => .check .invalidCredentials "user verification required"

theorem Refusal.isRetryable_error (r : Refusal) : r.error.isRetryable = false := by
  cases r <;> rfl

/-! ### Checks -/

/-- A question to the verifier of credentials. -/
inductive Check where
  | password (userId password : String)
  | totp (userId code : String)
  | intent (userId intentId token : String)
  | webauthn (userId : String) (challenge : Challenge) (assertion : List UInt8)
deriving DecidableEq

/-- The answer of the verifier. -/
structure Verdict where
  verified : Bool
  /-- Whether the authenticator verified the user; means something for WebAuthn only. -/
  userVerified : Bool := false
deriving DecidableEq, Repr

/-- The factor that a check is about, as a refusal names it. -/
def Check.factor : Check → String
  | password _ _ => "password"
  | totp _ _ => "totp"
  | intent _ _ _ => "intent"
  | webauthn _ _ _ => "webauthn assertion"

/-- The events that a verdict justifies, or the refusal. -/
def Check.conclude (c : Check) (v : Verdict) : Except Refusal (List SessionEvent) :=
  if v.verified = false then .error (.checkFailed c.factor)
  else
    match c with
    | password _ _ => .ok [.passwordChecked]
    | totp _ _ => .ok [.totpChecked]
    | intent _ _ _ => .ok [.intentChecked]
    | webauthn _ challenge _ =>
      if challenge.requiresVerification && !v.userVerified then .error .verificationRequired
      else .ok [.webauthnChecked v.userVerified]

/-! ### Decisions -/

/-- What a command leads to. -/
inductive Decision where
  /-- It is refused. -/
  | refuse (refusal : Refusal)
  /-- Events are to be appended; without any, nothing is to be done. -/
  | append (events : List SessionEvent)
  /-- Events are to be appended if nobody has written to the stream yet. -/
  | ifVacant (events : List SessionEvent)
  /-- The verifier has to be asked. -/
  | consult (check : Check)
deriving DecidableEq

/-- Identifiers that were generated for a command. -/
structure Minted where
  tokenId : String
  nonce : String
deriving DecidableEq, Repr

/-- Goes on if the session is active and not expired. -/
def whileActive (m : Model) (now : Instant) (go : Decision) : Decision :=
  match m.facts.state with
  | .uninitialized => .refuse (.notFound m.sessionId)
  | .terminated => .refuse .ended
  | .active => if m.facts.isExpired now then .refuse .expired else go

/-- Goes on with the session's user, if there is one. -/
def withUser (m : Model) (go : String → Decision) : Decision :=
  match m.facts.userId with
  | some userId => go userId
  | none => .refuse .noUser

/-- Whether an entry would change metadata. -/
def changesEntry (current : Metadata) (key : String) (value : List UInt8) : Bool :=
  match current.get? key with
  | some v => v != value
  | none => !value.isEmpty

/-- What a command leads to, at an instant and with identifiers generated for it. -/
def Command.decide (now : Instant) (minted : Minted) (m : Model) : Command → Decision
  | create userAgent =>
    if m.facts.state ≠ .uninitialized then .refuse (.alreadyExists m.sessionId)
    else .ifVacant [.added userAgent]
  | terminate tokenId =>
    match m.facts.state with
    | .uninitialized => .refuse (.notFound m.sessionId)
    | .terminated => .append []
    | .active =>
      if tokenId.isSome ∧ m.facts.tokenId ≠ tokenId then .refuse .wrongToken
      else .append [.terminated]
  | checkUser userId resourceOwner =>
    whileActive m now <|
      if m.facts.userId.any (· != userId) then .refuse .differentUser
      else .append [.userChecked ⟨userId, resourceOwner⟩]
  | checkPassword password =>
    whileActive m now <| withUser m fun userId => .consult (.password userId password)
  | checkIntent intentId token =>
    whileActive m now <| withUser m fun userId => .consult (.intent userId intentId token)
  | checkTotp code =>
    whileActive m now <| withUser m fun userId => .consult (.totp userId code)
  | challengeWebauthn allowed verification rpId =>
    whileActive m now <| withUser m fun _ =>
      .append [.webauthnChallenged ⟨minted.nonce, allowed, verification, rpId⟩]
  | checkWebauthn assertion =>
    whileActive m now <| withUser m fun userId =>
      match m.facts.challenge with
      | some challenge => .consult (.webauthn userId challenge assertion)
      | none => .refuse .noChallenge
  | setToken => whileActive m now <| .append [.tokenSet minted.tokenId]
  | setMetadata entries =>
    whileActive m now <|
      let changed := entries.filter (changesEntry m.facts.metadata)
      .append (if changed.isEmpty then [] else [.metadataSet changed])
  | setLifetime seconds => whileActive m now <| .append [.lifetimeSet seconds]

end SessionLedger
