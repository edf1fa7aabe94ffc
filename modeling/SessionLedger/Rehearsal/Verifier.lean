import SessionLedger.Command.Decision

/-!
# A verifier by rules

A verifier of credentials for rehearsals: each check has a rule that says what has to be presented,
or that the check fails with an error.

## Main definitions

* `Rule`, `VerifierRules` — the rules
* `VerifierRules.verdict` — the verdict on a check
-/

namespace SessionLedger

/-- The rule of a check. -/
inductive Rule (α : Type) where
  /-- Nothing that is presented is right. -/
  | never
  /-- What is presented is held against this. -/
  | expects (value : α)
  /-- The check itself fails. -/
  | fails (error : Error)

/-- The rule of an assertion check. -/
structure AssertionRule where
  /-- The verdict; without one, the credential has to be among those that the challenge allows. -/
  verified : Option Bool
  userVerified : Bool
deriving DecidableEq, Repr

/-- The rules of all checks. -/
structure VerifierRules where
  password : Rule String
  totp : Rule String
  /-- The tokens of intents. -/
  intent : Rule (KeyMap String)
  webauthn : Rule AssertionRule

namespace VerifierRules

/-- The rules of a user who knows everything. -/
def standard : VerifierRules where
  password := .expects "correct horse"
  totp := .expects "246810"
  intent := .expects (.ofList [("i1", "token-i1")])
  webauthn := .expects ⟨some true, true⟩

/-- Holds what is presented against a rule. -/
def against (rule : Rule α) (right : α → Bool) : Except Error Verdict :=
  match rule with
  | .never => .ok ⟨false, false⟩
  | .expects value => .ok ⟨right value, false⟩
  | .fails e => .error e

/-- The verdict on a check. -/
def verdict (rules : VerifierRules) : Check → Except Error Verdict
  | .password _ password => against rules.password (· == password)
  | .totp _ code => against rules.totp (· == code)
  | .intent _ intentId token =>
    against rules.intent fun tokens => tokens.get? intentId == some token
  | .webauthn _ challenge assertion =>
    match rules.webauthn with
    | .never => .ok ⟨false, false⟩
    | .expects rule => .ok ⟨rule.verified.getD (challenge.allows assertion), rule.userVerified⟩
    | .fails e => .error e

end VerifierRules

end SessionLedger
