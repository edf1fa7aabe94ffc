import SessionLedger.Session.Model

/-!
# Session views

The facts about a session that a login page may read, and whether the session can still be used.

## Main definitions

* `View` — the facts
* `View.isUsable` — whether the session can be used at an instant
-/

namespace SessionLedger

/-- The facts that a login page may read. -/
structure View where
  sessionId : String
  state : SessionState
  userId : Option String
  authenticationInstant : Option Instant
  factors : List Factor
  hasChallenge : Bool
  expiration : Option Instant
  /-- The position up to which the session was folded. -/
  position : UInt64
deriving DecidableEq

/-- The view of a model. -/
def Model.view (m : Model) : View where
  sessionId := m.sessionId
  state := m.facts.state
  userId := m.facts.userId
  authenticationInstant := m.facts.authenticationInstant
  factors := m.facts.factors
  hasChallenge := m.facts.hasChallenge
  expiration := m.facts.expiration
  position := m.position

namespace View

/-- A session can be used while it is active and before it expires. -/
def isUsable (v : View) (now : Instant) : Bool :=
  v.state == .active && v.expiration.all (now < ·)

/-- How a view is read. -/
def record : Json.Record View where
  name := "SessionView"
  draft := ⟨"", .uninitialized, none, none, [], false, none, 0⟩
  fields := [
    .of "session_id" .required .string fun v d => { d with sessionId := v },
    .of "state" .required (.variant SessionState.names) fun v d => { d with state := v },
    .of "user_id" .optional (.optional .string) fun v d => { d with userId := v },
    .of "authentication_instant" .optional (.optional .instant) fun v d =>
      { d with authenticationInstant := v },
    .of "factors" .required (.list (.variant Factor.names)) fun v d => { d with factors := v },
    .of "has_challenge" .required .bool fun v d => { d with hasChallenge := v },
    .of "expiration" .optional (.optional .instant) fun v d => { d with expiration := v },
    .of "position" .required .word64 fun v d => { d with position := v }]

/-- An instant that may be missing. -/
def instantToJson (t : Option Instant) : Json := t.elim .null fun t => .str t.write

/-- The written form. -/
def toJson (v : View) : Json := .obj [
  ("session_id", .str v.sessionId),
  ("state", .str v.state.name),
  ("user_id", UserAgent.textToJson v.userId),
  ("authentication_instant", instantToJson v.authenticationInstant),
  ("factors", .arr (v.factors.map fun f => .str f.name)),
  ("has_challenge", .bool v.hasChallenge),
  ("expiration", instantToJson v.expiration),
  ("position", .int v.position.toNat)]

end View

end SessionLedger
