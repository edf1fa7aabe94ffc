import SessionLedger.Json.Decoder

/-!
# Challenges

A session that asks for a WebAuthn assertion holds the challenge that it handed out: the nonce, the
credentials that may answer it, and whether the authenticator has to verify the user. An empty set
of credentials admits any.

## Main definitions

* `UserVerification` — how much the relying party cares about user verification
* `CredentialSet` — a set of credential ids, in increasing order
* `Challenge` — an outstanding challenge
* `Challenge.allows`, `Challenge.requiresVerification` — who may answer it, and how
-/

namespace SessionLedger

/-- Whether the authenticator has to verify the user. -/
inductive UserVerification where
  | unspecified
  | required
  | preferred
  | discouraged
deriving DecidableEq, Repr

namespace UserVerification

/-- The written names, in the order of declaration. -/
def names : List (String × UserVerification) := [
  ("unspecified", unspecified), ("required", required), ("preferred", preferred),
  ("discouraged", discouraged)]

/-- The written name. -/
def name : UserVerification → String
  | unspecified => "unspecified"
  | required => "required"
  | preferred => "preferred"
  | discouraged => "discouraged"

theorem find?_name (v : UserVerification) : KeyMap.find? v.name names = some v := by
  cases v <;> decide

end UserVerification

/-- The id of a credential. -/
abbrev CredentialId := List UInt8

/-- A set of credential ids: a list that increases strictly, byte by byte. -/
structure CredentialSet where
  ids : List CredentialId
  sorted : ids.Pairwise (· < ·)
deriving DecidableEq

namespace CredentialSet

/-- Puts an id into a sorted list of ids. -/
def place (c : CredentialId) : List CredentialId → List CredentialId
  | [] => [c]
  | c' :: rest =>
    if c < c' then c :: c' :: rest else if c = c' then c' :: rest else c' :: place c rest

theorem mem_place {c x : CredentialId} {l : List CredentialId} :
    x ∈ place c l ↔ x = c ∨ x ∈ l := by
  induction l with
  | nil => simp [place]
  | cons a rest ih =>
    simp only [place]
    split
    · simp
    · split
      · next h => subst h; simp
      · simp only [List.mem_cons, ih]
        exact or_left_comm

theorem sorted_place {l : List CredentialId} (h : l.Pairwise (· < ·)) (c : CredentialId) :
    (place c l).Pairwise (· < ·) := by
  induction l with
  | nil => exact List.pairwise_singleton _ _
  | cons a rest ih =>
    obtain ⟨ha, hrest⟩ := List.pairwise_cons.1 h
    simp only [place]
    split
    · next hlt =>
      refine List.pairwise_cons.2 ⟨fun x hx => ?_, h⟩
      rcases List.mem_cons.1 hx with rfl | hx
      · exact hlt
      · exact List.lt_trans hlt (ha x hx)
    · split
      · exact h
      · next hnlt hne =>
        refine List.pairwise_cons.2 ⟨fun x hx => ?_, ih hrest⟩
        rcases mem_place.1 hx with rfl | hx
        · have hle : a ≤ x := List.not_lt.1 hnlt
          exact Std.lt_of_le_of_ne hle (Ne.symm hne)
        · exact ha x hx

/-- The set without ids. -/
def empty : CredentialSet := ⟨[], List.Pairwise.nil⟩

instance : EmptyCollection CredentialSet := ⟨empty⟩

/-- The set with one more id. -/
def insert (s : CredentialSet) (c : CredentialId) : CredentialSet :=
  ⟨place c s.ids, sorted_place s.sorted c⟩

/-- The set of the ids in a list. -/
def ofList (ids : List CredentialId) : CredentialSet := ids.foldl insert ∅

theorem mem_ofList {x : CredentialId} {ids : List CredentialId} :
    x ∈ (ofList ids).ids ↔ x ∈ ids := by
  suffices ∀ (s : CredentialSet), x ∈ (ids.foldl insert s).ids ↔ x ∈ s.ids ∨ x ∈ ids from by
    have := this ∅
    simpa [ofList, EmptyCollection.emptyCollection, empty] using this
  induction ids with
  | nil => intro s; simp
  | cons a rest ih =>
    intro s
    have hmem : x ∈ (s.insert a).ids ↔ x = a ∨ x ∈ s.ids := mem_place
    rw [List.foldl_cons, ih, hmem, List.mem_cons]
    exact ⟨fun h => by rcases h with (h | h) | h <;> simp [h],
      fun h => by rcases h with h | h | h <;> simp [h]⟩

end CredentialSet

/-- An outstanding challenge. -/
structure Challenge where
  /-- The nonce to be signed. -/
  nonce : String
  allowed : CredentialSet
  verification : UserVerification
  rpId : String
  challengedAt : Instant
deriving DecidableEq

namespace Challenge

/-- Whether a credential may answer the challenge. -/
def allows (c : Challenge) (credential : CredentialId) : Bool :=
  c.allowed.ids.isEmpty || c.allowed.ids.contains credential

/-- Whether the authenticator has to verify the user. -/
def requiresVerification (c : Challenge) : Bool := c.verification == .required

theorem allows_iff {c : Challenge} {credential : CredentialId} :
    c.allows credential = true ↔ c.allowed.ids = [] ∨ credential ∈ c.allowed.ids := by
  simp [allows]

/-- How a challenge is read. -/
def record : Json.Record Challenge where
  name := "WebAuthnChallenge"
  draft := ⟨"", ∅, .unspecified, "", .epoch⟩
  fields := [
    .of "challenge" .required .string fun v d => { d with nonce := v },
    .of "allowed_credential_ids" .required (.list .bytes) fun v d =>
      { d with allowed := .ofList v },
    .of "user_verification" .required (.variant UserVerification.names) fun v d =>
      { d with verification := v },
    .of "rp_id" .required .string fun v d => { d with rpId := v },
    .of "challenged_at" .required .instant fun v d => { d with challengedAt := v }]

/-- Bytes as a list of numbers. -/
def bytesToJson (bytes : List UInt8) : Json := .arr (bytes.map fun b => .int b.toNat)

/-- The written form. -/
def toJson (c : Challenge) : Json := .obj [
  ("challenge", .str c.nonce),
  ("allowed_credential_ids", .arr (c.allowed.ids.map bytesToJson)),
  ("user_verification", .str c.verification.name),
  ("rp_id", .str c.rpId),
  ("challenged_at", .str c.challengedAt.write)]

end Challenge

end SessionLedger
