import SessionLedger.Json.Decoder

/-!
# Identities of streams

The events of the log form streams, one for each aggregate, which has a type and an id. A writer
names the resource owner on whose behalf it acts; an empty name is no name.

## Main definitions

* `StreamKey` — which stream
* `Identity` — which stream, and who claims to own it
* `Identity.owner?` — the owner, if one is named
-/

namespace SessionLedger

/-- The type and the id of an aggregate. -/
structure StreamKey where
  aggregateType : String
  id : String
deriving DecidableEq, Repr

/-- An aggregate, and the resource owner on whose behalf it is addressed. -/
structure Identity where
  aggregateType : String
  id : String
  resourceOwner : Option String
deriving DecidableEq, Repr

/-- The aggregate type of sessions. -/
def sessionType : String := "session"

namespace Identity

/-- The identity of a session. -/
def session (id : String) (resourceOwner : Option String) : Identity :=
  ⟨sessionType, id, resourceOwner⟩

/-- The stream of the aggregate. -/
def key (i : Identity) : StreamKey := ⟨i.aggregateType, i.id⟩

/-- The owner, if one is named. -/
def owner? (i : Identity) : Option String := i.resourceOwner.filter (· ≠ "")

/-- How an identity is read. -/
def record : Json.Record Identity where
  name := "AggregateIdentity"
  draft := ⟨"", "", none⟩
  fields := [
    .of "aggregate_type" .required .string fun v d => { d with aggregateType := v },
    .of "id" .required .string fun v d => { d with id := v },
    .of "resource_owner" .optional (.optional .string) fun v d => { d with resourceOwner := v }]

@[simp] theorem owner?_session_none (id : String) : (session id none).owner? = none := rfl

theorem owner?_ne_empty {i : Identity} {o : String} (h : i.owner? = some o) : o ≠ "" := by
  simp only [owner?, Option.filter_eq_some_iff] at h
  simpa using h.2

end Identity

end SessionLedger
