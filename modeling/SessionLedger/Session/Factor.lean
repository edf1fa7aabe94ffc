import SessionLedger.KeyMap

/-!
# Authentication factors

The ways in which a session's user has proved who they are. A WebAuthn check counts as passwordless
when the authenticator verified the user, and as a security key otherwise.

## Main definitions

* `Factor` — the factors, in their order
* `Factor.isFirst` — which of them can stand alone
-/

namespace SessionLedger

/-- A way to prove who one is. -/
inductive Factor where
  | password
  | passwordless
  | securityKey
  | idp
  | totp
deriving DecidableEq, Repr

namespace Factor

/-- Every factor, in order. -/
def all : List Factor := [password, passwordless, securityKey, idp, totp]

/-- The written name. -/
def name : Factor → String
  | password => "password"
  | passwordless => "passwordless"
  | securityKey => "security_key"
  | idp => "idp"
  | totp => "totp"

/-- The written names, in order. -/
def names : List (String × Factor) := all.map fun f => (f.name, f)

/-- The place in the order. -/
def rank : Factor → Nat
  | password => 0
  | passwordless => 1
  | securityKey => 2
  | idp => 3
  | totp => 4

/-- Factors from the least to the greatest. -/
def sort (factors : List Factor) : List Factor := factors.mergeSort fun a b => a.rank ≤ b.rank

/-- Whether the factor can be the only one. -/
def isFirst : Factor → Bool
  | securityKey | totp => false
  | _ => true

theorem find?_name (f : Factor) : KeyMap.find? f.name names = some f := by
  cases f <;> decide

end Factor

end SessionLedger
