import SessionLedger.Session.Model

/-!
# Commands

What a caller may ask of a session, and how often a command is tried again when somebody else has
written to the session in the meantime.

## Main definitions

* `Command` — the requests
* `RetryPolicy` — how often, and how long to wait in between
-/

namespace SessionLedger

/-- A request to change one session. -/
inductive Command where
  | create (userAgent : Option UserAgent)
  | checkUser (userId resourceOwner : String)
  | checkPassword (password : String)
  | checkIntent (intentId token : String)
  | challengeWebauthn (allowed : List CredentialId) (verification : UserVerification)
      (rpId : String)
  | checkWebauthn (assertion : List UInt8)
  | checkTotp (code : String)
  | setToken
  /-- Empty values remove their keys. -/
  | setMetadata (entries : Metadata)
  | setLifetime (seconds : Int64)
  /-- With the session's current token, if the caller holds one. -/
  | terminate (tokenId : Option String)
deriving DecidableEq

namespace Command

/-- The name of a command. -/
def name : Command → String
  | create _ => "create"
  | checkUser _ _ => "check_user"
  | checkPassword _ => "check_password"
  | checkIntent _ _ => "check_intent"
  | challengeWebauthn _ _ _ => "challenge_webauthn"
  | checkWebauthn _ => "check_webauthn"
  | checkTotp _ => "check_totp"
  | setToken => "set_token"
  | setMetadata _ => "set_metadata"
  | setLifetime _ => "set_lifetime"
  | terminate _ => "terminate"

/-- Whether the command opens a session. -/
def isCreate : Command → Bool
  | create _ => true
  | _ => false

end Command

/-- How often a command is tried again after a conflict. -/
structure RetryPolicy where
  maxRetries : UInt32 := 3
  /-- How long to wait before the first retry, in milliseconds. -/
  backoffMs : UInt64 := 10
deriving DecidableEq, Repr

namespace RetryPolicy

/-- How long to wait before a retry, in milliseconds: so many times the first wait, as far as a
number of 64 bits goes. -/
def backoff (p : RetryPolicy) (attempt : UInt32) : Nat :=
  min (p.backoffMs.toNat * attempt.toNat) 18446744073709551615

/-- How a policy is read. -/
def record : Json.Record RetryPolicy where
  name := "CommandConfig"
  draft := {}
  fields := [
    .of "max_retries" .defaulted .word32 fun v d => { d with maxRetries := v },
    .of "retry_backoff_ms" .defaulted .word64 fun v d => { d with backoffMs := v }]

end RetryPolicy

end SessionLedger
