import SessionLedger.Error
import SessionLedger.Event.Basic
import SessionLedger.Limits
import SessionLedger.Session.Challenge

/-!
# Session events

The closed set of events that a session folds, and their stored encoding. A stored event of one of
these kinds carries a payload that has to match the kind and to keep to the limits; `null` stands
for an empty payload. Kinds without a payload ignore what is stored with them, and events of other
kinds mean nothing to a session.

## Main definitions

* `SessionEvent.Kind` — the kinds
* `SessionEvent` — an event with its payload
* `SessionEvent.ofPayload`, `SessionEvent.payload` — reading and writing the payload of a kind
* `SessionEvent.faults` — which limits a payload breaks
* `SessionEvent.decode`, `SessionEvent.validate`, `SessionEvent.toPending` — from and to the log
-/

namespace SessionLedger

/-! ### Kinds -/

/-- The kinds of event that a session folds. -/
inductive SessionEvent.Kind where
  | added
  | userChecked
  | passwordChecked
  | intentChecked
  | webauthnChallenged
  | webauthnChecked
  | totpChecked
  | tokenSet
  | metadataSet
  | lifetimeSet
  | terminated
deriving DecidableEq, Repr

namespace SessionEvent.Kind

/-- Every kind. -/
def all : List Kind := [
  added, userChecked, passwordChecked, intentChecked, webauthnChallenged, webauthnChecked,
  totpChecked, tokenSet, metadataSet, lifetimeSet, terminated]

/-- The stored name. -/
def name : Kind → String
  | added => "session.added"
  | userChecked => "session.user.checked"
  | passwordChecked => "session.password.checked"
  | intentChecked => "session.intent.checked"
  | webauthnChallenged => "session.webAuthN.challenged"
  | webauthnChecked => "session.webAuthN.checked"
  | totpChecked => "session.totp.checked"
  | tokenSet => "session.token.set"
  | metadataSet => "session.metadata.set"
  | lifetimeSet => "session.lifetime.set"
  | terminated => "session.terminated"

/-- The kind of a stored name, if it is one. -/
def ofName? (s : String) : Option Kind := all.find? fun k => k.name == s

@[simp] theorem ofName?_name (k : Kind) : ofName? k.name = some k := by cases k <;> decide

theorem name_of_ofName? {s : String} {k : Kind} (h : ofName? s = some k) : k.name = s := by
  simpa using List.find?_some h

theorem name_injective {k k' : Kind} (h : k.name = k'.name) : k = k' := by
  have := ofName?_name k
  rw [h, ofName?_name] at this
  exact (Option.some.inj this).symm

end SessionEvent.Kind

/-! ### Payloads -/

/-- The client that opened a session. -/
structure UserAgent where
  fingerprintId : Option String := none
  ip : Option String := none
  description : Option String := none
  header : KeyMap (List String) := ∅
deriving DecidableEq

/-- An identified user. -/
structure CheckedUser where
  userId : String
  /-- The organisation that owns the user, empty if unknown. -/
  resourceOwner : String := ""
deriving DecidableEq

/-- A challenge as it was handed out. -/
structure HandedOut where
  nonce : String
  allowed : List CredentialId := []
  verification : UserVerification := .unspecified
  rpId : String
deriving DecidableEq

/-- Session metadata; an empty value removes its key. -/
abbrev Metadata := KeyMap (List UInt8)

/-- An event of a session. -/
inductive SessionEvent where
  | added (userAgent : Option UserAgent)
  | userChecked (user : CheckedUser)
  | passwordChecked
  | intentChecked
  | webauthnChallenged (handedOut : HandedOut)
  | webauthnChecked (userVerified : Bool)
  | totpChecked
  | tokenSet (tokenId : String)
  | metadataSet (entries : Metadata)
  | lifetimeSet (seconds : Int64)
  | terminated
deriving DecidableEq

namespace UserAgent

/-- How a user agent is read. -/
def record : Json.Record UserAgent where
  name := "UserAgent"
  draft := {}
  fields := [
    .of "fingerprint_id" .optional (.optional .string) fun v d => { d with fingerprintId := v },
    .of "ip" .optional (.optional .string) fun v d => { d with ip := v },
    .of "description" .optional (.optional .string) fun v d => { d with description := v },
    .of "header" .defaulted (.keyMap (.list .string)) fun v d => { d with header := v }]

/-- A text that may be missing. -/
def textToJson (s : Option String) : Json := s.elim .null .str

/-- The written form, members in key order. -/
def toJson (u : UserAgent) : Json := .obj [
  ("description", textToJson u.description),
  ("fingerprint_id", textToJson u.fingerprintId),
  ("header", .obj (u.header.entries.map fun (k, vs) => (k, .arr (vs.map .str)))),
  ("ip", textToJson u.ip)]

end UserAgent

namespace SessionEvent

/-- The kind of an event. -/
def kind : SessionEvent → Kind
  | added _ => .added
  | userChecked _ => .userChecked
  | passwordChecked => .passwordChecked
  | intentChecked => .intentChecked
  | webauthnChallenged _ => .webauthnChallenged
  | webauthnChecked _ => .webauthnChecked
  | totpChecked => .totpChecked
  | tokenSet _ => .tokenSet
  | metadataSet _ => .metadataSet
  | lifetimeSet _ => .lifetimeSet
  | terminated => .terminated

/-- How the payload of an added session is read. -/
def addedRecord : Json.Record (Option UserAgent) where
  name := "AddedData"
  draft := none
  fields := [.of "user_agent" .optional (.optional UserAgent.record.decode) fun v _ => v]

/-- How the payload of a user check is read. -/
def userRecord : Json.Record CheckedUser where
  name := "UserCheckedData"
  draft := ⟨"", ""⟩
  fields := [
    .of "user_id" .required .string fun v d => { d with userId := v },
    .of "user_resource_owner" .defaulted .string fun v d => { d with resourceOwner := v }]

/-- How the payload of a challenge is read. -/
def handedOutRecord : Json.Record HandedOut where
  name := "WebAuthnChallengedData"
  draft := { nonce := "", rpId := "" }
  fields := [
    .of "challenge" .required .string fun v d => { d with nonce := v },
    .of "allowed_credential_ids" .defaulted (.list .bytes) fun v d => { d with allowed := v },
    .of "user_verification" .defaulted (.variant UserVerification.names) fun v d =>
      { d with verification := v },
    .of "rp_id" .required .string fun v d => { d with rpId := v }]

/-- How the payload of an assertion check is read. -/
def verifiedRecord : Json.Record Bool where
  name := "WebAuthnCheckedData"
  draft := false
  fields := [.of "user_verified" .required .bool fun v _ => v]

/-- How the payload of a new token is read. -/
def tokenRecord : Json.Record String where
  name := "TokenSetData"
  draft := ""
  fields := [.of "token_id" .required .string fun v _ => v]

/-- How the payload of a metadata change is read. -/
def metadataRecord : Json.Record Metadata where
  name := "MetadataSetData"
  draft := ∅
  fields := [.of "metadata" .required (.keyMap .bytes) fun v _ => v]

/-- How the payload of a lifetime is read. -/
def lifetimeRecord : Json.Record Int64 where
  name := "LifetimeSetData"
  draft := 0
  fields := [.of "lifetime_secs" .required .signed64 fun v _ => v]

/-- The event of a kind and a payload, whether or not the payload keeps to the limits. -/
def ofPayload (kind : Kind) (data : Json) : Except Json.Mismatch SessionEvent :=
  match kind with
  | .added => .added <$> addedRecord.decode data
  | .userChecked => .userChecked <$> userRecord.decode data
  | .passwordChecked => .ok .passwordChecked
  | .intentChecked => .ok .intentChecked
  | .webauthnChallenged => .webauthnChallenged <$> handedOutRecord.decode data
  | .webauthnChecked => .webauthnChecked <$> verifiedRecord.decode data
  | .totpChecked => .ok .totpChecked
  | .tokenSet => .tokenSet <$> tokenRecord.decode data
  | .metadataSet => .metadataSet <$> metadataRecord.decode data
  | .lifetimeSet => .lifetimeSet <$> lifetimeRecord.decode data
  | .terminated => .ok .terminated

/-- The payload of an event, members in key order. -/
def payload : SessionEvent → Json
  | added userAgent => .obj [("user_agent", userAgent.elim .null UserAgent.toJson)]
  | userChecked user => .obj [
      ("user_id", .str user.userId), ("user_resource_owner", .str user.resourceOwner)]
  | webauthnChallenged out => .obj [
      ("allowed_credential_ids", .arr (out.allowed.map Challenge.bytesToJson)),
      ("challenge", .str out.nonce),
      ("rp_id", .str out.rpId),
      ("user_verification", .str out.verification.name)]
  | webauthnChecked userVerified => .obj [("user_verified", .bool userVerified)]
  | tokenSet tokenId => .obj [("token_id", .str tokenId)]
  | metadataSet entries => .obj [
      ("metadata", .obj (entries.entries.map fun (k, v) => (k, Challenge.bytesToJson v)))]
  | lifetimeSet seconds => .obj [("lifetime_secs", .int seconds.toInt)]
  | passwordChecked | intentChecked | totpChecked | terminated => .empty

/-! ### Limits -/

/-- A limit that a payload breaks. -/
inductive Fault where
  /-- A text or a list is too short or too long. -/
  | length (path : String)
  /-- A number is out of its range. -/
  | range (path : String)
  /-- A metadata key is empty or too long. -/
  | metadataKey
  /-- A metadata value is too long, by the size of the value in bytes. -/
  | metadataValue (key : String) (size : Nat)
deriving DecidableEq, Repr

/-- The wording of a fault. -/
def Fault.message : Fault → String
  | length path => path ++ ": Validation error: length"
  | range path => path ++ ": Validation error: range"
  | metadataKey =>
    "metadata: metadata key must be 1-" ++ toString Limits.metadataKeyBytes ++ " chars"
  | metadataValue key size =>
    "metadata: metadata " ++ key ++ " " ++ toString (size / 1024) ++ "KB exceeds " ++
      toString (Limits.metadataValueBytes / 1024) ++ "KB limit"

/-- The fault at a path whose length is out of bounds. -/
def lengthFault (path : String) (low high length : Nat) : List Fault :=
  if low ≤ length ∧ length ≤ high then [] else [.length path]

/-- The fault at a path whose text may be missing, or else must not be too long. -/
def textFault (path : String) (high : Nat) (text : Option String) : List Fault :=
  text.elim [] fun s => lengthFault path 0 high s.length

/-- The first fault of metadata, entries in key order and of each entry the key before the value. -/
def metadataFault : List (String × List UInt8) → List Fault
  | [] => []
  | (key, value) :: rest =>
    if key = "" ∨ Limits.metadataKeyBytes < key.utf8ByteSize then [.metadataKey]
    else if Limits.metadataValueBytes < value.length then [.metadataValue key value.length]
    else metadataFault rest

/-- The limits that a payload breaks, in the order of their paths. -/
def faults : SessionEvent → List Fault
  | added none => []
  | added (some u) =>
    textFault "user_agent.description" Limits.userAgentFieldLength u.description ++
      textFault "user_agent.fingerprint_id" Limits.userAgentFieldLength u.fingerprintId ++
      textFault "user_agent.ip" Limits.ipLength u.ip
  | userChecked user =>
    lengthFault "user_id" 1 Limits.idLength user.userId.length ++
      lengthFault "user_resource_owner" 0 Limits.idLength user.resourceOwner.length
  | webauthnChallenged out =>
    lengthFault "allowed_credential_ids" 0 Limits.allowedCredentials out.allowed.length ++
      lengthFault "challenge" 1 Limits.challengeLength out.nonce.length ++
      lengthFault "rp_id" 1 Limits.rpIdLength out.rpId.length
  | tokenSet tokenId => lengthFault "token_id" 1 Limits.idLength tokenId.length
  | metadataSet entries => metadataFault entries.entries
  | lifetimeSet seconds =>
    if 1 ≤ seconds.toInt ∧ seconds.toInt ≤ Limits.lifetimeSeconds then []
    else [.range "lifetime_secs"]
  | webauthnChecked _ | passwordChecked | intentChecked | totpChecked | terminated => []

/-- The wording of several faults. -/
def faultsMessage (faults : List Fault) : String := "; ".intercalate (faults.map Fault.message)

/-- An event may be appended if its payload keeps to the limits. -/
def validate (e : SessionEvent) : Except Error Unit :=
  if e.faults.isEmpty then .ok ()
  else .error (.validation (e.kind.name ++ ": " ++ faultsMessage e.faults))

/-! ### From and to the log -/

/-- The event to be appended. -/
def toPending (e : SessionEvent) : PendingEvent := { kind := e.kind.name, data := e.payload }

/-- What is stored as a payload; `null` stands for an empty one. -/
def storedPayload (data : Json) : Json := if data = .null then .empty else data

/-- Reads a stored event, `none` if a session does not know its kind. -/
def decode (e : Event) : Except Error (Option SessionEvent) :=
  match Kind.ofName? e.kind with
  | none => .ok none
  | some kind =>
    match ofPayload kind (storedPayload e.data) with
    | .error mismatch => .error (.malformed e.kind e.position mismatch.message)
    | .ok event =>
      if event.faults.isEmpty then .ok (some event)
      else .error (.malformed e.kind e.position (faultsMessage event.faults))

theorem decode_of_unknown {e : Event} (h : Kind.ofName? e.kind = none) : decode e = .ok none := by
  simp [decode, h]

theorem validate_eq_ok_iff {e : SessionEvent} : e.validate = .ok () ↔ e.faults = [] := by
  cases h : e.faults <;> simp [validate, h]

theorem toPending_kind (e : SessionEvent) : e.toPending.kind = e.kind.name := rfl

end SessionEvent

end SessionLedger
