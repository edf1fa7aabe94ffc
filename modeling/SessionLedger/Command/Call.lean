import SessionLedger.Command.Decision
import SessionLedger.Store.Condition
import SessionLedger.Telemetry.Metrics

/-!
# Running a command

A command runs as a call, a small machine that loads its session, decides, and appends, and begins
anew when its append is in conflict. Between two of its steps anything may happen to the log: each
step asks one question of the surroundings (the events of a query, the latest position of a stream,
a verdict, an append) and takes the answer, whatever it is. A model never outlives the attempt that
built it.

Attempts are counted in 32 bits. A call that would begin an attempt past the last number is broken
off, and so is a call whose append is.

## Main definitions

* `Phase`, `Call` — where a command is in its course
* `Call.afterLoad`, `Call.afterClaim`, `Call.afterVerdict`, `Call.afterAppend` — how it takes the
  answers
* `Surroundings` — what answers the questions
* `Call.step`, `Call.run` — one step, and all of them
* `execute`, `createSession` — a command from its begin to its end

## Main results

* `Call.remaining_step_lt` — each step brings a call nearer to its end
-/

namespace SessionLedger

/-- What a command that went well leads to. -/
structure Outcome where
  /-- The session, with what the command appended. -/
  model : Model
  /-- How many times the session was loaded. -/
  attempts : UInt32
  /-- Whether anything was appended. -/
  changed : Bool
deriving DecidableEq

/-- Where a call is in its course. -/
inductive Phase where
  /-- About to load the session. -/
  | loading
  /-- About to ask whether the stream is vacant. -/
  | claiming (model : Model) (events : List SessionEvent)
  /-- About to ask the verifier. -/
  | verifying (model : Model) (check : Check)
  /-- About to append. -/
  | appending (model : Model) (events : List SessionEvent)
  /-- At its end. -/
  | done (result : Completion Outcome)

/-- A command in its course. -/
structure Call where
  sessionId : String
  resourceOwner : Option String
  command : Command
  maxRetries : UInt32
  /-- The number of the current attempt. -/
  attempt : UInt32 := 1
  phase : Phase := .loading

namespace Call

/-! ### Taking answers -/

/-- The call at its end. -/
def finish (c : Call) (result : Completion Outcome) : Call := { c with phase := .done result }

/-- The model that an attempt begins with. -/
def fresh (c : Call) : Model := .new c.sessionId c.resourceOwner

/-- The first fault among events that are to be appended. -/
def validateAll (events : List SessionEvent) : Except Error Unit :=
  events.forM SessionEvent.validate

/-- The call that has decided on events: they are to be appended if they are valid, and without any
it is at its end. -/
def settle (c : Call) (model : Model) (events : List SessionEvent) : Call :=
  if events.isEmpty then c.finish (.ok ⟨model, c.attempt, false⟩)
  else
    match validateAll events with
    | .ok () => { c with phase := .appending model events }
    | .error e => c.finish (.error e)

/-- The call after a decision. -/
def follow (c : Call) (model : Model) : Decision → Call
  | .refuse refusal => c.finish (.error refusal.error)
  | .append events => c.settle model events
  | .ifVacant events => { c with phase := .claiming model events }
  | .consult check => { c with phase := .verifying model check }

/-- The call after its session was loaded, which decides at an instant and with identifiers
generated for it. -/
def afterLoad (c : Call) (now : Instant) (minted : Minted)
    (answer : Except Error (List Event)) : Call :=
  match answer.bind c.fresh.loaded with
  | .ok model => c.follow model (c.command.decide now minted model)
  | .error e => c.finish (.error e)

/-- The call after it was told the latest position of its stream. -/
def afterClaim (c : Call) (model : Model) (events : List SessionEvent)
    (answer : Except Error UInt64) : Call :=
  match answer with
  | .ok position =>
    if 0 < position then c.finish (.error (Refusal.alreadyExists model.sessionId).error)
    else c.settle model events
  | .error e => c.finish (.error e)

/-- The call after the verifier has spoken. -/
def afterVerdict (c : Call) (model : Model) (check : Check)
    (answer : Except Error Verdict) : Call :=
  match answer with
  | .ok verdict =>
    match check.conclude verdict with
    | .ok events => c.settle model events
    | .error refusal => c.finish (.error refusal.error)
  | .error e => c.finish (.error e)

/-- Whether an error of an append leads to another attempt. -/
def triesAgain (c : Call) (e : Error) : Bool :=
  e.isRetryable && decide (c.attempt ≤ c.maxRetries)

/-- The call at the begin of its next attempt, if there is a number for it. -/
def again (c : Call) : Call :=
  if c.attempt.toNat + 1 < UInt32.size then { c with attempt := c.attempt + 1, phase := .loading }
  else c.finish .overflow

/-- The call after its append. -/
def afterAppend (c : Call) (model : Model) (answer : Completion (List Event)) : Call :=
  match answer with
  | .ok events =>
    match model.loaded events with
    | .ok model => c.finish (.ok ⟨model, c.attempt, true⟩)
    | .error e => c.finish (.error e)
  | .error e =>
    if c.triesAgain e then c.again else c.finish (.error e)
  | .overflow => c.finish .overflow

end Call

/-! ### The surroundings -/

/-- What answers the questions of a call, from a state of its own. -/
structure Surroundings (σ : Type) where
  /-- The events of a query. -/
  filter : Query → σ → Except Error (List Event) × σ
  /-- The latest position of a stream. -/
  latest : Identity → σ → Except Error UInt64 × σ
  /-- An append. -/
  push : Identity → Condition → List PendingEvent → σ → Completion (List Event) × σ
  /-- The verdict on a check. -/
  verify : Check → σ → Except Error Verdict × σ
  /-- The clock by which commands tell whether a session is expired. -/
  now : σ → Instant
  /-- Identifiers for the next decision. -/
  mint : σ → Minted
  /-- Takes note of an activity. -/
  note : Activity → σ → σ

/-- What a load of events into a model counts as. -/
def foldActivity (m : Model) (events : List Event) : List Activity :=
  .unknownSkipped (m.unknownFolded (m.buffer ++ events)) ::
    match m.loaded events with
    | .ok _ => [.folded events.length]
    | .error (.malformed _ _ _) => [.malformed]
    | .error _ => []

/-- What a query, and the load of its events into a model, count as. -/
def loadActivity (m : Model) : Except Error (List Event) → List Activity
  | .ok events => foldActivity m events
  | .error _ => [.queryFailed]

namespace Surroundings

variable {σ : Type}

/-- Takes note of some activities. -/
def noteAll (w : Surroundings σ) (activities : List Activity) (s : σ) : σ :=
  activities.foldl (fun s a => w.note a s) s

/-- Takes note of how a command ended, if it was not broken off. -/
def noteEnd (w : Surroundings σ) (result : Completion Outcome) (s : σ) : σ :=
  match result with
  | .ok _ => w.note (.finished true) s
  | .error _ => w.note (.finished false) s
  | .overflow => s

/-- Queries the events of a model and loads them: the result, the model afterwards, and the state of
the surroundings. -/
def load (w : Surroundings σ) (m : Model) (s : σ) : (Except Error Unit × Model) × σ :=
  let (answer, s) := w.filter m.query s
  let s := w.noteAll (loadActivity m answer) s
  match answer with
  | .ok events => (m.load events, s)
  | .error e => ((.error e, m), s)

end Surroundings

namespace Call

variable {σ : Type}

/-- One step of a call that is not at its end. -/
def step (w : Surroundings σ) (c : Call) (s : σ) : Call × σ :=
  match c.phase with
  | .loading =>
    let (answer, s) := w.filter c.fresh.query s
    let s := w.noteAll (loadActivity c.fresh answer) s
    (c.afterLoad (w.now s) (w.mint s) answer, s)
  | .claiming model events =>
    let (answer, s) := w.latest model.identity s
    (c.afterClaim model events answer, s)
  | .verifying model check =>
    let (answer, s) := w.verify check s
    (c.afterVerdict model check answer, s)
  | .appending model events =>
    let (answer, s) :=
      w.push model.identity (.of model) (events.map SessionEvent.toPending) s
    match answer with
    | .ok appended =>
      let skipped := model.unknownFolded (model.buffer ++ appended)
      (c.afterAppend model answer, w.note (.unknownSkipped skipped) s)
    | .error e =>
      (c.afterAppend model answer, if c.triesAgain e then w.note .retried s else s)
    | .overflow => (c.afterAppend model answer, s)
  | .done _ => (c, s)

/-! ### Termination -/

/-- How far a phase is from the end of its attempt. -/
def rank : Phase → Nat
  | .loading => 3
  | .claiming _ _ | .verifying _ _ => 2
  | .appending _ _ => 1
  | .done _ => 0

/-- A bound on the steps that a call has left. -/
def remaining (c : Call) : Nat := (c.maxRetries.toNat + 1 - c.attempt.toNat) * 4 + rank c.phase

theorem remaining_finish (c : Call) (r : Completion Outcome) :
    (c.finish r).remaining = (c.maxRetries.toNat + 1 - c.attempt.toNat) * 4 := rfl

theorem remaining_settle_le (c : Call) (m : Model) (events : List SessionEvent) :
    (c.settle m events).remaining ≤ (c.maxRetries.toNat + 1 - c.attempt.toNat) * 4 + 1 := by
  unfold settle
  split
  · rw [remaining_finish]; omega
  · split
    · simp [remaining, rank]
    · rw [remaining_finish]; omega

theorem remaining_afterLoad_le (c : Call) (now : Instant) (minted : Minted)
    (answer : Except Error (List Event)) :
    (c.afterLoad now minted answer).remaining ≤
      (c.maxRetries.toNat + 1 - c.attempt.toNat) * 4 + 2 := by
  unfold afterLoad
  split
  · unfold follow
    split
    · rw [remaining_finish]; omega
    · exact Nat.le_succ_of_le (remaining_settle_le ..)
    · simp [remaining, rank]
    · simp [remaining, rank]
  · rw [remaining_finish]; omega

theorem remaining_afterClaim_le (c : Call) (m : Model) (events : List SessionEvent)
    (answer : Except Error UInt64) :
    (c.afterClaim m events answer).remaining ≤
      (c.maxRetries.toNat + 1 - c.attempt.toNat) * 4 + 1 := by
  unfold afterClaim
  split
  · split
    · rw [remaining_finish]; omega
    · exact remaining_settle_le ..
  · rw [remaining_finish]; omega

theorem remaining_afterVerdict_le (c : Call) (m : Model) (check : Check)
    (answer : Except Error Verdict) :
    (c.afterVerdict m check answer).remaining ≤
      (c.maxRetries.toNat + 1 - c.attempt.toNat) * 4 + 1 := by
  unfold afterVerdict
  split
  · split
    · exact remaining_settle_le ..
    · rw [remaining_finish]; omega
  · rw [remaining_finish]; omega

theorem triesAgain_iff {c : Call} {e : Error} :
    c.triesAgain e = true ↔ e.isRetryable = true ∧ c.attempt ≤ c.maxRetries := by
  rw [triesAgain, Bool.and_eq_true, decide_eq_true_iff]

/-- The next attempt has the next number, or there is none. -/
theorem again_cases (c : Call) :
    (c.attempt.toNat + 1 = UInt32.size ∧ c.again = c.finish .overflow) ∨
      ((c.attempt + 1).toNat = c.attempt.toNat + 1 ∧
        c.again = { c with attempt := c.attempt + 1, phase := .loading }) := by
  rw [again]
  split
  · next hnext => exact .inr ⟨(UInt32.toNat_add ..).trans (Nat.mod_eq_of_lt hnext), rfl⟩
  · next hlast => exact .inl ⟨by have := c.attempt.toNat_lt_size; omega, rfl⟩

theorem remaining_afterAppend_le (c : Call) (m : Model) (answer : Completion (List Event)) :
    (c.afterAppend m answer).remaining ≤ (c.maxRetries.toNat + 1 - c.attempt.toNat) * 4 := by
  unfold afterAppend
  split
  · split <;> exact Nat.le_of_eq (remaining_finish ..)
  · split
    · next hagain =>
      have hadmitted : c.attempt.toNat ≤ c.maxRetries.toNat := (triesAgain_iff.1 hagain).2
      rcases c.again_cases with ⟨-, heq⟩ | ⟨hnext, heq⟩
      · exact heq ▸ Nat.le_of_eq (remaining_finish ..)
      · rw [heq, remaining, hnext]
        simp only [rank]
        omega
    · exact Nat.le_of_eq (remaining_finish ..)
  · exact Nat.le_of_eq (remaining_finish ..)

/-- Each step brings a call nearer to its end. -/
theorem remaining_step_lt (w : Surroundings σ) (c : Call) (s : σ)
    (h : ∀ r, c.phase ≠ .done r) : (c.step w s).1.remaining < c.remaining := by
  unfold step
  split
  · next hp =>
    have := remaining_afterLoad_le c
    simp only [remaining, hp, rank]
    exact Nat.lt_of_le_of_lt (this ..) (by omega)
  · next hp =>
    have := remaining_afterClaim_le c
    simp only [remaining, hp, rank]
    exact Nat.lt_of_le_of_lt (this ..) (by omega)
  · next hp =>
    have := remaining_afterVerdict_le c
    simp only [remaining, hp, rank]
    exact Nat.lt_of_le_of_lt (this ..) (by omega)
  · next hp =>
    have := remaining_afterAppend_le c
    simp only [remaining, hp, rank]
    split <;> exact Nat.lt_of_le_of_lt (this ..) (by omega)
  · next r hp => exact absurd hp (h r)

/-- Runs a call to its end. -/
def run (w : Surroundings σ) (c : Call) (s : σ) : Completion Outcome × σ :=
  match h : c.phase with
  | .done result => (result, s)
  | .loading | .claiming _ _ | .verifying _ _ | .appending _ _ =>
    have := remaining_step_lt w c s (by simp [h])
    let next := c.step w s
    run w next.1 next.2
termination_by c.remaining

end Call

/-! ### Commands -/

/-- Runs a command on a session. -/
def execute {σ : Type} (w : Surroundings σ) (policy : RetryPolicy) (sessionId : String)
    (resourceOwner : Option String) (command : Command) (s : σ) : Completion Outcome × σ :=
  let call : Call := {
    sessionId := sessionId
    resourceOwner := resourceOwner
    command := command
    maxRetries := policy.maxRetries }
  let (result, s) := call.run w (w.note .started s)
  (result, w.noteEnd result s)

/-- Opens a session under a generated id. -/
def createSession {σ : Type} (w : Surroundings σ) (policy : RetryPolicy) (generatedId : String)
    (resourceOwner : String) (command : Command) (s : σ) : Completion Outcome × σ :=
  if command.isCreate then execute w policy generatedId (some resourceOwner) command s
  else (.error (.validation (command.name ++ " cannot create a session")), s)

end SessionLedger
