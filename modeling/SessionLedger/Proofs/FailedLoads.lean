import SessionLedger.Command.Call
import SessionLedger.Proofs.Loading

/-!
# Loads that fail

When one of the events that are loaded cannot be folded, the load fails as a whole: the facts, the
position, the owner and the time of the last event stay as they were, whatever was folded before the
fault. With the buffer it is different. It is emptied before folding begins, so what was in it is
gone after a failure, the events of the load and also those that had been delivered before.

So a load that fails leaves no trace if nothing was waiting in the buffer, and then it may be left
out of any sequence of calls without a difference to the others. If something was waiting, the
failure is what later calls pass over in silence.

## Main definitions

* `Feed` — how a model can be given events
* `Model.feed`, `Model.feedAll` — one such call, and a sequence of them

## Main results

* `Model.load_of_error`, `Surroundings.load_of_error` — everything that a failed load does
* `Model.failed_load_left_out` — when a failed load can be left out
* `Model.failed_load_forgets` — events that were waiting, and are gone
-/

namespace SessionLedger

/-- How a model can be given events: into its buffer, by folding the buffer, or both at once. -/
inductive Feed where
  | deliver (events : List Event)
  | reduce
  | load (events : List Event)

namespace Model

variable {m : Model} {events : List Event} {fault : Error}

/-- One call: its result, and the model afterwards. -/
def feed (m : Model) : Feed → Except Error Unit × Model
  | .deliver events => (.ok (), m.deliver events)
  | .reduce => m.reduce
  | .load events => m.load events

/-- A sequence of calls: their results, and the model at the end. -/
def feedAll (m : Model) : List Feed → List (Except Error Unit) × Model
  | [] => ([], m)
  | call :: calls =>
    ((m.feed call).1 :: ((m.feed call).2.feedAll calls).1, ((m.feed call).2.feedAll calls).2)

@[simp] theorem feedAll_nil (m : Model) : m.feedAll [] = ([], m) := rfl

theorem feedAll_cons (m : Model) (call : Feed) (calls : List Feed) :
    m.feedAll (call :: calls) =
      ((m.feed call).1 :: ((m.feed call).2.feedAll calls).1,
        ((m.feed call).2.feedAll calls).2) := rfl

theorem feedAll_append (m : Model) (before after : List Feed) :
    m.feedAll (before ++ after) =
      ((m.feedAll before).1 ++ ((m.feedAll before).2.feedAll after).1,
        ((m.feedAll before).2.feedAll after).2) := by
  induction before generalizing m with
  | nil => rfl
  | cons call before ih => rw [List.cons_append, feedAll_cons, feedAll_cons, ih]; rfl

theorem length_feedAll (m : Model) (calls : List Feed) :
    (m.feedAll calls).1.length = calls.length := by
  induction calls generalizing m with
  | nil => rfl
  | cons call calls ih => rw [feedAll_cons, List.length_cons, List.length_cons, ih]

/-! ### What a failure does -/

/-- Folding the buffer fails with nothing but the buffer changed. -/
theorem reduce_of_error (h : m.reduce.1 = .error fault) : m.reduce.2 = { m with buffer := [] } := by
  simp only [reduce, takeBuffer] at h ⊢
  cases hfold : ({ m with buffer := [] } : Model).fold m.buffer with
  | ok m' =>
    rw [hfold] at h
    cases h
  | error first => rfl

/-- A failed load empties the buffer, and does nothing else. -/
theorem load_of_error (h : (m.load events).1 = .error fault) :
    (m.load events).2 = { m with buffer := [] } :=
  reduce_of_error (m := m.deliver events) h

end Model

/-- A load whose events come of a query fails without any trace if the query fails, and otherwise
as every other. -/
theorem Surroundings.load_of_error {σ : Type} {w : Surroundings σ} {m : Model} {s : σ}
    {fault : Error} (h : (w.load m s).1.1 = .error fault) :
    ((w.filter m.query s).1 = .error fault ∧ (w.load m s).1.2 = m) ∨
      ((∃ events, (w.filter m.query s).1 = .ok events) ∧
        (w.load m s).1.2 = { m with buffer := [] }) := by
  simp only [Surroundings.load] at h ⊢
  cases hquery : (w.filter m.query s).1 with
  | error first =>
    rw [hquery] at h
    cases h
    exact .inl ⟨rfl, rfl⟩
  | ok events =>
    rw [hquery] at h
    exact .inr ⟨⟨events, rfl⟩, Model.load_of_error h⟩

namespace Model

/-- **When a failed load can be left out.** After any calls, a load that fails leaves everything of
the model as it is, but for the buffer, which is empty then. Leaving it out makes no difference to
the results of the calls before it and after it and to the model at the end, whatever these calls
are, just if nothing was waiting in the buffer when it came. The same is true of the model, if the
events come of a query that is answered; and if the query is not answered, nothing changes at
all. -/
theorem failed_load_left_out {m : Model} {before : List Feed} {events : List Event} {fault : Error}
    (hfailed : ((m.feedAll before).2.load events).1 = .error fault) :
    ((m.feedAll before).2.load events).2 = { (m.feedAll before).2 with buffer := [] } ∧
      ((∀ after, ∃ earlier later last, earlier.length = before.length ∧
          m.feedAll (before ++ after) = (earlier ++ later, last) ∧
          m.feedAll (before ++ .load events :: after) = (earlier ++ .error fault :: later, last)) ↔
        (m.feedAll before).2.buffer = []) ∧
      ∀ (σ : Type) (w : Surroundings σ) (s : σ) (first : Error),
        (w.load (m.feedAll before).2 s).1.1 = .error first →
        (w.load (m.feedAll before).2 s).1.2 =
          match (w.filter (m.feedAll before).2.query s).1 with
          | .ok _ => { (m.feedAll before).2 with buffer := [] }
          | .error _ => (m.feedAll before).2 := by
  have hload := load_of_error hfailed
  have hfeed : ∀ after, m.feedAll (before ++ .load events :: after) =
      ((m.feedAll before).1 ++
          .error fault :: (({ (m.feedAll before).2 with buffer := [] } : Model).feedAll after).1,
        (({ (m.feedAll before).2 with buffer := [] } : Model).feedAll after).2) := by
    intro after
    rw [feedAll_append, feedAll_cons, feed, hfailed, hload]
  refine ⟨hload, ⟨fun hleft => ?_, fun hempty after => ?_⟩, fun σ w s first hquery => ?_⟩
  · -- With no call after it, the models at the end are those before and after the failure.
    obtain ⟨earlier, later, last, -, hwithout, hwith⟩ := hleft []
    rw [feedAll_append] at hwithout
    rw [hfeed] at hwith
    have hsame : (m.feedAll before).2 = { (m.feedAll before).2 with buffer := [] } :=
      (congrArg Prod.snd hwithout).trans (congrArg Prod.snd hwith).symm
    rw [hsame]
  · have hsame : ({ (m.feedAll before).2 with buffer := [] } : Model) = (m.feedAll before).2 := by
      rw [← hempty]
    refine ⟨_, _, _, length_feedAll m before, feedAll_append m before after, ?_⟩
    rw [hfeed, hsame]
  · rcases Surroundings.load_of_error hquery with ⟨hrefused, hmodel⟩ | ⟨⟨answer, hanswer⟩, hmodel⟩
    · rw [hrefused]
      exact hmodel
    · rw [hanswer]
      exact hmodel

/-- An event of a session at a place. -/
def storedAt (position : UInt64) (p : PendingEvent) : Event :=
  p.stored ⟨sessionType, "s"⟩ "org" position .epoch

/-- Events of which the second cannot be folded: it does not name a user. -/
def brokenBatch : List Event :=
  [storedAt 2 SessionEvent.passwordChecked.toPending, storedAt 3 { kind := "session.user.checked" }]

/-- What is wrong with the second. -/
def brokenFault : Error := .malformed "session.user.checked" 3 "missing field `user_id`"

/-- A session is opened, a load fails, and its first event comes again and is folded. -/
theorem failed_load_left_out_opened :
    let opened := [Feed.load [storedAt 1 (SessionEvent.added none).toPending]]
    let again := [Feed.load [storedAt 2 SessionEvent.passwordChecked.toPending]]
    (((Model.new "s" none).feedAll opened).2.load brokenBatch).1 = .error brokenFault ∧
      ((Model.new "s" none).feedAll opened).2.buffer = [] ∧
      ∃ last, (Model.new "s" none).feedAll (opened ++ .load brokenBatch :: again) =
          ([.ok (), .error brokenFault, .ok ()], last) ∧
        last = ((Model.new "s" none).feedAll (opened ++ again)).2 ∧
        last.facts.passwordCheckedAt = some .epoch := by
  intro opened again
  have hfailed :
      (((Model.new "s" none).feedAll opened).2.load brokenBatch).1 = .error brokenFault := rfl
  have hempty : ((Model.new "s" none).feedAll opened).2.buffer = [] := rfl
  have hresults : ((Model.new "s" none).feedAll (opened ++ again)).1 = [.ok ()] ++ [.ok ()] := rfl
  obtain ⟨earlier, later, last, hlength, hwithout, hwith⟩ :=
    (failed_load_left_out hfailed).2.1.mpr hempty again
  rw [hwithout] at hresults
  obtain ⟨rfl, rfl⟩ := List.append_inj hresults hlength
  have hlast : last = ((Model.new "s" none).feedAll (opened ++ again)).2 := by rw [hwithout]
  refine ⟨hfailed, hempty, last, hwith, hlast, ?_⟩
  rw [hlast]
  rfl

/-- Events that were waiting, and are gone: a session is opened in the buffer, then a load fails,
and folding the buffer finds nothing. Without the load the session would be open. -/
theorem failed_load_forgets :
    let waiting := [Feed.deliver [storedAt 1 (SessionEvent.added none).toPending]]
    (((Model.new "s" none).feedAll waiting).2.load brokenBatch).1 = .error brokenFault ∧
      (((Model.new "s" none).feedAll waiting).2.load brokenBatch).2 ≠
        ((Model.new "s" none).feedAll waiting).2 ∧
      ((Model.new "s" none).feedAll (waiting ++ [.load brokenBatch, .reduce])).2.facts.state =
        .uninitialized ∧
      ((Model.new "s" none).feedAll (waiting ++ [.reduce])).2.facts.state = .active := by
  refine ⟨rfl, fun hsame => ?_, rfl, rfl⟩
  have hlength := congrArg (fun m : Model => m.buffer.length) hsame
  exact absurd hlength (by decide)

end Model

end SessionLedger
