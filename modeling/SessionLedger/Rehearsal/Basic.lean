import SessionLedger.Command.Call
import SessionLedger.Rehearsal.Verifier
import SessionLedger.Store.Basic

/-!
# Rehearsals

Surroundings in which commands can be run on purpose under trouble: a store in memory whose calls
can be made to fail, rivals that write to a stream just before a command does, a clock that ticks
with every append, generated identifiers that can be told in advance, and a verifier that goes by
rules.

## Main definitions

* `Rehearsal` — the state of the surroundings
* `Rehearsal.surroundings` — what a command is answered
* `Rehearsal.execute`, `Rehearsal.createSession`, `Rehearsal.load` — what can be rehearsed
-/

namespace SessionLedger

/-- Errors that await the next calls of one kind; a call without an error goes through. -/
abbrev FaultQueue := List (Option Error)

/-- The state of the surroundings. -/
structure Rehearsal where
  store : Store := .empty
  /-- The time of the next append. -/
  clock : Instant
  /-- How far the clock ticks. -/
  tick : Int := 1
  /-- The instant at which commands tell whether a session is expired. -/
  today : Instant
  filterFaults : FaultQueue := []
  latestFaults : FaultQueue := []
  pushFaults : FaultQueue := []
  /-- What rivals write just before the next appends of commands. -/
  rivals : List (List PendingEvent) := []
  rules : VerifierRules := .standard
  /-- What the verifier was asked, latest first. -/
  asked : List Check := []
  /-- How many appends commands have tried. -/
  pushes : Nat := 0
  /-- How many tokens and nonces were generated and came as far as an append. -/
  tokens : Nat := 0
  nonces : Nat := 0
  /-- How many session ids were generated of which the store was asked. -/
  created : Nat := 0
  metrics : Metrics := {}

namespace Rehearsal

/-- Takes note of an activity. -/
def note (r : Rehearsal) (a : Activity) : Rehearsal := { r with metrics := r.metrics.note a }

/-- The next entry of a queue, and the rest of it. -/
def nextFault : FaultQueue → Option Error × FaultQueue
  | [] => (none, [])
  | fault :: rest => (fault, rest)

/-- Appends to the store at the time of the clock. The clock ticks if anything was appended, and
stands still at the end of time. -/
def append (r : Rehearsal) (who : Identity) (condition : Condition) (pending : List PendingEvent) :
    Completion (List Event) × Rehearsal :=
  match r.store.push r.clock who condition pending with
  | .ok (events, store) =>
    let clock := if events.isEmpty then r.clock else (r.clock.addSeconds r.tick).getD r.clock
    (.ok events, { r with store := store, clock := clock }.note (.appended events.length))
  | .error e => (.error e, r.note .conflicted)
  | .overflow => (.overflow, r)

/-- A rival appends events, each behind all others of a stream; it does not care about a conflict.
The answer is whether positions sufficed. -/
def rivalAppend (r : Rehearsal) (who : Identity) : List PendingEvent → Bool × Rehearsal
  | [] => (true, r)
  | p :: rest =>
    match r.append who (.atPosition (r.store.latest who.key)) [p] with
    | (.ok _, r) | (.error _, r) => rivalAppend r who rest
    | (.overflow, r) => (false, r)

/-- The next rival writes to a stream, if there is one. -/
def nextRivalAppends (r : Rehearsal) (who : Identity) : Bool × Rehearsal :=
  match r.rivals with
  | [] => (true, r)
  | batch :: rest => rivalAppend { r with rivals := rest } who batch

/-- Counts the generated identifiers among events that are to be appended. -/
def countGenerated (r : Rehearsal) (pending : List PendingEvent) : Rehearsal :=
  let has (kind : SessionEvent.Kind) : Bool := pending.any fun p => p.kind == kind.name
  { r with
    tokens := r.tokens + if has .tokenSet then 1 else 0
    nonces := r.nonces + if has .webauthnChallenged then 1 else 0 }

/-! ### Answers -/

/-- Answers a query. -/
def filter (q : Query) (r : Rehearsal) : Except Error (List Event) × Rehearsal :=
  let (fault, rest) := nextFault r.filterFaults
  let r := { r with filterFaults := rest }
  match fault with
  | some e => (.error e, r)
  | none => (.ok (r.store.filter q), r)

/-- Answers with the latest position of a stream. -/
def latest (who : Identity) (r : Rehearsal) : Except Error UInt64 × Rehearsal :=
  let (fault, rest) := nextFault r.latestFaults
  let r := { r with latestFaults := rest }
  match fault with
  | some e => (.error e, r)
  | none => (.ok (r.store.latest who.key), r)

/-- A command appends, after a rival. If the rival is broken off, so is the command. -/
def push (who : Identity) (condition : Condition) (pending : List PendingEvent) (r : Rehearsal) :
    Completion (List Event) × Rehearsal :=
  let (fault, rest) := nextFault r.pushFaults
  let r := { r with pushFaults := rest, pushes := r.pushes + 1 }
  match fault with
  | some e => (.error e, r)
  | none =>
    match (r.countGenerated pending).nextRivalAppends who with
    | (true, r) => r.append who condition pending
    | (false, r) => (.overflow, r)

/-- The verifier answers. -/
def verify (c : Check) (r : Rehearsal) : Except Error Verdict × Rehearsal :=
  (r.rules.verdict c, { r with asked := c :: r.asked })

/-- The identifiers for the next decision. -/
def mint (r : Rehearsal) : Minted :=
  ⟨"token-" ++ toString (r.tokens + 1), "nonce-" ++ toString (r.nonces + 1)⟩

/-- What commands are answered. -/
def surroundings : Surroundings Rehearsal where
  filter := filter
  latest := latest
  push := push
  verify := verify
  now := today
  mint := mint
  note := fun a r => r.note a

/-! ### What can be rehearsed -/

/-- Runs a command on a session. -/
def execute (r : Rehearsal) (policy : RetryPolicy) (sessionId : String)
    (resourceOwner : Option String) (command : Command) : Completion Outcome × Rehearsal :=
  SessionLedger.execute surroundings policy sessionId resourceOwner command r

/-- What generated session ids begin with. Its first character is none that stands for anything in a
text, so that a generated id differs from those that are given. -/
def createdStem : String := "\ufdd0$created-"

/-- A generated session id. -/
def createdName (n : Nat) : String := createdStem ++ toString n

/-- Opens a session under a generated id. An id of which the store was never asked is generated
again: the first question about it is a query, which may fail. -/
def createSession (r : Rehearsal) (policy : RetryPolicy) (resourceOwner : String)
    (command : Command) : Completion Outcome × Rehearsal :=
  let asked := command.isCreate && (nextFault r.filterFaults).1.isNone
  SessionLedger.createSession surroundings policy (createdName r.created) resourceOwner command
    { r with created := if asked then r.created + 1 else r.created }

/-- Loads the events of a model into it: the result, the model afterwards, and the surroundings. -/
def load (r : Rehearsal) (m : Model) : (Except Error Unit × Model) × Rehearsal :=
  surroundings.load m r

/-- The condition that nothing a model folds was appended since it loaded some events, or the error
of loading them. Events of unknown kinds among them are taken note of. -/
def conditionOf (r : Rehearsal) (m : Model) (events : List Event) :
    Except Error Condition × Rehearsal :=
  ((m.loaded events).map Condition.of,
    r.note (.unknownSkipped (m.unknownFolded (m.buffer ++ events))))

/-- The verifier's questions so far, first to last, and the surroundings without them. -/
def takeAsked (r : Rehearsal) : List Check × Rehearsal := (r.asked.reverse, { r with asked := [] })

end Rehearsal

end SessionLedger
