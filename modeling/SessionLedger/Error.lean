/-!
# Errors

Everything that can go wrong between a caller and the log. An error has a wording, for most causes
a stable code, and says whether running the same command again may help; only a conflict does.

Counting past the last number of a width is not among the errors. It is told to nobody: the program
is broken off on the spot.

## Main definitions

* `SessionCode`, `CheckCode` — the codes of refusals by the session and by the credential checks
* `Error` — the causes
* `Error.message`, `Error.code`, `Error.isRetryable` — what callers see of them
* `Completion` — how something ends that may go wrong or be broken off
-/

namespace SessionLedger

/-- Why the event log failed. -/
inductive StoreCode where
  | queryFailed
  | conflict
deriving DecidableEq, Repr

/-- The stable code. -/
def StoreCode.text : StoreCode → String
  | queryFailed => "STORE_001"
  | conflict => "STORE_002"

/-- Every code of the event log. -/
def StoreCode.all : List StoreCode := [.queryFailed, .conflict]

/-- Why a session refuses a command. -/
inductive SessionCode where
  | notFound
  | alreadyExists
  | terminated
  | userMissing
  | permissionDenied
deriving DecidableEq, Repr

/-- The stable code. -/
def SessionCode.text : SessionCode → String
  | notFound => "SESSION_001"
  | alreadyExists => "SESSION_002"
  | terminated => "SESSION_003"
  | userMissing => "SESSION_004"
  | permissionDenied => "SESSION_005"

/-- Every code of a session's refusals. -/
def SessionCode.all : List SessionCode :=
  [.notFound, .alreadyExists, .terminated, .userMissing, .permissionDenied]

/-- Why a credential check fails. -/
inductive CheckCode where
  | invalidCredentials
  | challengeMissing
deriving DecidableEq, Repr

/-- The stable code. -/
def CheckCode.text : CheckCode → String
  | invalidCredentials => "CHECK_001"
  | challengeMissing => "CHECK_002"

/-- Every code of a failed check. -/
def CheckCode.all : List CheckCode := [.invalidCredentials, .challengeMissing]

/-- The code of a stored event that cannot be decoded. -/
def malformedCode : String := "EVENT_001"

/-- What can go wrong. -/
inductive Error where
  /-- The log could not be queried. -/
  | query (reason : String)
  /-- The stream is not where the writer expected it. -/
  | conflict (expected actual : UInt64)
  /-- A stored event of a known kind does not decode. -/
  | malformed (kind : String) (position : UInt64) (reason : String)
  /-- The session refuses the command. -/
  | session (code : SessionCode) (reason : String)
  /-- A credential check failed. -/
  | check (code : CheckCode) (reason : String)
  /-- The request itself is not admitted. -/
  | validation (reason : String)
  /-- A value could not be turned into JSON or back. -/
  | serialization (reason : String)
  /-- Anything else. -/
  | internal (reason : String)
deriving DecidableEq, Repr

namespace Error

/-- A reason behind a code in brackets. -/
def coded (code reason : String) : String := "[" ++ code ++ "] " ++ reason

/-- The wording of an error. -/
def message : Error → String
  | query reason => coded StoreCode.queryFailed.text ("event query failed: " ++ reason)
  | conflict expected actual =>
    coded StoreCode.conflict.text
      ("expected position " ++ toString expected ++ ", aggregate is at " ++ toString actual)
  | malformed kind position reason =>
    coded malformedCode
      ("malformed " ++ kind ++ " event at position " ++ toString position ++ ": " ++ reason)
  | session code reason => coded code.text reason
  | check code reason => coded code.text reason
  | validation reason => "validation error: " ++ reason
  | serialization reason => "serialization error: " ++ reason
  | internal reason => "internal error: " ++ reason

/-- The stable code, where the cause has one. -/
def code : Error → Option String
  | query _ => some StoreCode.queryFailed.text
  | conflict _ _ => some StoreCode.conflict.text
  | malformed _ _ _ => some malformedCode
  | session code _ => some code.text
  | check code _ => some code.text
  | validation _ | serialization _ | internal _ => none

/-- Whether running the same command again may help. -/
def isRetryable : Error → Bool
  | conflict _ _ => true
  | _ => false

theorem isRetryable_iff (e : Error) :
    e.isRetryable = true ↔ ∃ expected actual, e = conflict expected actual := by
  cases e <;> simp [isRetryable]

end Error

/-- How something ends that counts in numbers of a fixed width. -/
inductive Completion (α : Type) where
  | ok (value : α)
  | error (e : Error)
  /-- There was no next number, and it was broken off. -/
  | overflow
deriving DecidableEq

end SessionLedger
