import SessionLedger.Command.Call
import SessionLedger.Proofs.Loading

/-!
# Many calls on one log

Any number of calls that work on one store, one step of one call at a time, in any order. Between
two steps of a call the others go on, and events of kinds that no session knows may come into the
log from elsewhere. The steps are those of `Call.step`; what is fixed here is only what a step is
answered: by the store, and by a `Moment` that says what the outside contributes.

## What the outside decides

Nothing is assumed of a moment. The clock may stand still or go back, identifiers may repeat, and
the verifier may answer the same question differently each time, or fail.

## The ledger

Beside the log the world keeps a ledger, in which each event stands with its origin: which call
appended it, and what that call had asked the verifier last. No step looks into the ledger, so it
changes nothing in what calls do; it is there for statements about where events come from.

## Main definitions

* `Moment`, `Consultation`, `Origin`, `Entry` — what a step is answered, and what is kept of it
* `Desk.surroundings` — the surroundings of one step
* `World`, `Act`, `World.after` — the store with all calls, what can happen next, and a run
* `Caller.Moves`, `World.Evolves` — everything that a step of a call, and an act, can do

## Main results

* `World.advance_eq` — what a step of a call does, by its phase
* `World.evolves_act` — an act does nothing else
* `World.after_invariant` — what holds at first and is kept by every act holds after every run
* `World.after_ledger` — the ledger has the events of the log
* `World.sound_after` — the store of a world is sound
* `World.exists_steps_execute` — executing a command is a run of the world
* `Desk.load_eq_ok_iff` — loading at a desk is loading from its store
-/

namespace SessionLedger

/-! ### One step -/

/-- What the outside contributes to one step of a call. -/
structure Moment where
  now : Instant
  /-- Identifiers that are generated in this step. -/
  minted : Minted
  /-- How the verifier answers. -/
  verdict : Check → Except Error Verdict

/-- A question to the verifier and its answer. -/
structure Consultation where
  check : Check
  answer : Except Error Verdict

/-- Where an event comes from. -/
structure Origin where
  /-- The number of the call that appended it. -/
  number : Nat
  /-- What that call had asked the verifier last. -/
  asked : Option Consultation

/-- An event of the log with its origin, if it was appended by a call. -/
structure Entry where
  event : Event
  origin : Option Origin

/-- What a call has before it in one of its steps. -/
structure Desk where
  store : Store
  ledger : List Entry
  number : Nat
  asked : Option Consultation
  moment : Moment

namespace Desk

/-- An append, with an entry in the ledger for each event. -/
def push (who : Identity) (condition : Condition) (pending : List PendingEvent) (d : Desk) :
    Completion (List Event) × Desk :=
  match d.store.push d.moment.now who condition pending with
  | .ok (events, store) =>
    (.ok events, { d with
      store := store
      ledger := d.ledger ++ events.map fun e => ⟨e, some ⟨d.number, d.asked⟩⟩ })
  | .error e => (.error e, d)
  | .overflow => (.overflow, d)

/-- What a call is answered in one step. -/
def surroundings : Surroundings Desk where
  filter q d := (.ok (d.store.filter q), d)
  latest who d := (.ok (d.store.latest who.key), d)
  push := push
  verify check d :=
    (d.moment.verdict check, { d with asked := some ⟨check, d.moment.verdict check⟩ })
  now d := d.moment.now
  mint d := d.moment.minted
  note _ d := d

section Answers

variable (d : Desk)

@[simp] theorem filter_surroundings (q : Query) :
    surroundings.filter q d = (.ok (d.store.filter q), d) := rfl

@[simp] theorem latest_surroundings (who : Identity) :
    surroundings.latest who d = (.ok (d.store.latest who.key), d) := rfl

@[simp] theorem verify_surroundings (check : Check) :
    surroundings.verify check d =
      (d.moment.verdict check, { d with asked := some ⟨check, d.moment.verdict check⟩ }) := rfl

@[simp] theorem push_surroundings (who : Identity) (condition : Condition)
    (pending : List PendingEvent) :
    surroundings.push who condition pending d = d.push who condition pending := rfl

@[simp] theorem now_surroundings : surroundings.now d = d.moment.now := rfl

@[simp] theorem mint_surroundings : surroundings.mint d = d.moment.minted := rfl

@[simp] theorem note_surroundings (a : Activity) : surroundings.note a d = d := rfl

@[simp] theorem noteEnd_surroundings (result : Completion Outcome) :
    surroundings.noteEnd result d = d := by
  cases result <;> rfl

@[simp] theorem noteAll_surroundings (activities : List Activity) :
    surroundings.noteAll activities d = d := by
  induction activities with
  | nil => rfl
  | cons a activities ih => exact ih

end Answers

/-- Loading a session at a desk is loading it from the store. -/
theorem load_eq_ok_iff {d : Desk} {sessionId : String} {resourceOwner : Option String}
    {m : Model} :
    (surroundings.load (.new sessionId resourceOwner) d).1 = (.ok (), m) ↔
      d.store.load sessionId resourceOwner = .ok m := by
  have hload : (surroundings.load (.new sessionId resourceOwner) d).1 =
      (Model.new sessionId resourceOwner).load
        (d.store.filter (Model.new sessionId resourceOwner).query) := rfl
  rw [hload, Store.load, Model.ofLog, Model.loaded, Store.filter]
  split
  · next m' hm => simp [hm]
  · next e m' hm => simp [hm]

end Desk

/-! ### The world -/

/-- A call in its course, with what it asked the verifier last. -/
structure Caller where
  call : Call
  asked : Option Consultation := none

/-- Events of kinds that no session knows. -/
structure ForeignBatch where
  pending : List PendingEvent
  unknown : ∀ p ∈ pending, SessionEvent.Kind.ofName? p.kind = none

theorem ForeignBatch.unknown_of_push {batch : ForeignBatch} {s s' : Store} {now : Instant}
    {who : Identity} {condition : Condition} {appended : List Event}
    (h : s.push now who condition batch.pending = .ok (appended, s')) :
    ∀ e ∈ appended, SessionEvent.Kind.ofName? e.kind = none := by
  intro e he
  obtain ⟨-, -, hplace, -⟩ := Store.push_eq_ok_iff.mp h
  obtain ⟨p, hp, hkind⟩ := Store.kind_of_mem_place hplace he
  rw [hkind]
  exact batch.unknown p hp

/-- A store and the calls that work on it, each under its number. -/
structure World where
  store : Store := .empty
  ledger : List Entry := []
  callers : List Caller := []

/-- What can happen next. -/
inductive Act where
  /-- A new call begins. -/
  | start (sessionId : String) (resourceOwner : Option String) (command : Command)
      (maxRetries : UInt32)
  /-- The call of a number takes a step. -/
  | step (number : Nat) (moment : Moment)
  /-- Somebody else appends events of kinds that no session knows. -/
  | foreign (now : Instant) (who : Identity) (condition : Condition) (batch : ForeignBatch)

namespace World

/-- The world after a step of a call. -/
def advance (w : World) (number : Nat) (caller : Caller) (moment : Moment) : World :=
  let (call, desk) := caller.call.step Desk.surroundings
    ⟨w.store, w.ledger, number, caller.asked, moment⟩
  ⟨desk.store, desk.ledger, w.callers.set number ⟨call, desk.asked⟩⟩

/-- The world after an act. The step of a call that there is not, and an append of somebody else
that is not admitted, change nothing. -/
def act (w : World) : Act → World
  | .start sessionId resourceOwner command maxRetries =>
    { w with callers := w.callers ++ [{ call := {
      sessionId := sessionId
      resourceOwner := resourceOwner
      command := command
      maxRetries := maxRetries } }] }
  | .step number moment =>
    match w.callers[number]? with
    | some caller => w.advance number caller moment
    | none => w
  | .foreign now who condition batch =>
    match w.store.push now who condition batch.pending with
    | .ok (events, store) =>
      { w with store := store, ledger := w.ledger ++ events.map fun e => ⟨e, none⟩ }
    | .error _ | .overflow => w

/-- The world after a run from an empty store. -/
def after (acts : List Act) : World := acts.foldl act {}

@[simp] theorem after_nil : after [] = {} := rfl

theorem after_concat (acts : List Act) (a : Act) : after (acts ++ [a]) = (after acts).act a := by
  simp [after]

end World

/-! ### What an act can do -/

/-- A step of a call that leaves the log alone. -/
inductive Caller.Moves (s : Store) (moment : Moment) (c : Caller) : Caller → Prop
  | load (h : c.call.phase = .loading) :
    Moves s moment c ⟨c.call.afterLoad moment.now moment.minted
      (.ok (s.filter c.call.fresh.query)), c.asked⟩
  | claim {m : Model} {events : List SessionEvent} (h : c.call.phase = .claiming m events) :
    Moves s moment c ⟨c.call.afterClaim m events (.ok (s.latest m.identity.key)), c.asked⟩
  | verify {m : Model} {check : Check} (h : c.call.phase = .verifying m check) :
    Moves s moment c ⟨c.call.afterVerdict m check (moment.verdict check),
      some ⟨check, moment.verdict check⟩⟩
  | reject {m : Model} {events : List SessionEvent} {e : Error}
    (h : c.call.phase = .appending m events)
    (hpush : s.push moment.now m.identity (.of m) (events.map SessionEvent.toPending) = .error e) :
    Moves s moment c ⟨c.call.afterAppend m (.error e), c.asked⟩
  | breakOff {m : Model} {events : List SessionEvent} (h : c.call.phase = .appending m events)
    (hpush : s.push moment.now m.identity (.of m) (events.map SessionEvent.toPending) = .overflow) :
    Moves s moment c ⟨c.call.afterAppend m .overflow, c.asked⟩
  | rest {r : Completion Outcome} (h : c.call.phase = .done r) : Moves s moment c c

/-- A call at its end does not move. -/
theorem Caller.Moves.eq_of_done {s : Store} {moment : Moment} {c next : Caller}
    (h : c.Moves s moment next) {r : Completion Outcome} (hdone : c.call.phase = .done r) :
    next = c := by
  cases h with
  | rest => rfl
  | load hphase | claim hphase | verify hphase | reject hphase | breakOff hphase =>
    rw [hphase] at hdone
    cases hdone

namespace World

variable {w : World} {number : Nat} {caller : Caller} {moment : Moment}

/-- The world with further events at the end of the log. -/
def extend (w : World) (store : Store) (appended : List Event) (origin : Option Origin) : World :=
  { w with store := store, ledger := w.ledger ++ appended.map fun e => ⟨e, origin⟩ }

/-- The world in which the call of a number is in another place of its course. -/
def put (w : World) (number : Nat) (caller : Caller) : World :=
  { w with callers := w.callers.set number caller }

/-- What a step of a call does, by the phase of the call. -/
theorem advance_eq (w : World) (number : Nat) (caller : Caller) (moment : Moment) :
    w.advance number caller moment = match caller.call.phase with
      | .loading => w.put number ⟨caller.call.afterLoad moment.now moment.minted
          (.ok (w.store.filter caller.call.fresh.query)), caller.asked⟩
      | .claiming m events => w.put number
          ⟨caller.call.afterClaim m events (.ok (w.store.latest m.identity.key)), caller.asked⟩
      | .verifying m check => w.put number
          ⟨caller.call.afterVerdict m check (moment.verdict check),
            some ⟨check, moment.verdict check⟩⟩
      | .appending m events =>
        match w.store.push moment.now m.identity (.of m) (events.map SessionEvent.toPending) with
        | .ok (appended, store) => (w.extend store appended (some ⟨number, caller.asked⟩)).put
            number ⟨caller.call.afterAppend m (.ok appended), caller.asked⟩
        | .error e => w.put number ⟨caller.call.afterAppend m (.error e), caller.asked⟩
        | .overflow => w.put number ⟨caller.call.afterAppend m .overflow, caller.asked⟩
      | .done _ => w.put number caller := by
  cases hphase : caller.call.phase with
  | appending m events =>
    cases hpush : w.store.push moment.now m.identity (.of m)
        (events.map SessionEvent.toPending) with
    | error e => simp [advance, Call.step, hphase, put, Desk.push, hpush]
    | overflow => simp [advance, Call.step, hphase, put, Desk.push, hpush]
    | ok result => simp [advance, Call.step, hphase, put, extend, Desk.push, hpush]
  | loading | claiming | verifying | done => simp [advance, Call.step, hphase, put]

/-- Everything that an act can do to a world. -/
inductive Evolves (w : World) : Act → World → Prop
  | enter {sessionId : String} {resourceOwner : Option String} {command : Command}
    {maxRetries : UInt32} :
    Evolves w (.start sessionId resourceOwner command maxRetries)
      { w with callers := w.callers ++ [{ call := {
        sessionId := sessionId
        resourceOwner := resourceOwner
        command := command
        maxRetries := maxRetries } }] }
  | idle {a : Act} : Evolves w a w
  | move {number : Nat} {moment : Moment} {caller next : Caller}
    (hcaller : w.callers[number]? = some caller) (hmoves : caller.Moves w.store moment next) :
    Evolves w (.step number moment) (w.put number next)
  | append {number : Nat} {moment : Moment} {caller : Caller} {m : Model}
    {events : List SessionEvent} {appended : List Event} {store : Store}
    (hcaller : w.callers[number]? = some caller) (hphase : caller.call.phase = .appending m events)
    (hpush : w.store.push moment.now m.identity (.of m) (events.map SessionEvent.toPending) =
      .ok (appended, store)) :
    Evolves w (.step number moment)
      ((w.extend store appended (some ⟨number, caller.asked⟩)).put number
        ⟨caller.call.afterAppend m (.ok appended), caller.asked⟩)
  | foreign {now : Instant} {who : Identity} {condition : Condition} {batch : ForeignBatch}
    {appended : List Event} {store : Store}
    (hpush : w.store.push now who condition batch.pending = .ok (appended, store)) :
    Evolves w (.foreign now who condition batch) (w.extend store appended none)

theorem evolves_advance (hcaller : w.callers[number]? = some caller) (moment : Moment) :
    w.Evolves (.step number moment) (w.advance number caller moment) := by
  rw [advance_eq]
  cases hphase : caller.call.phase with
  | loading => exact .move hcaller (.load hphase)
  | claiming m events => exact .move hcaller (.claim hphase)
  | verifying m check => exact .move hcaller (.verify hphase)
  | appending m events =>
    cases hpush : w.store.push moment.now m.identity (.of m)
        (events.map SessionEvent.toPending) with
    | error e =>
      simp only [hpush]
      exact .move hcaller (.reject hphase hpush)
    | overflow =>
      simp only [hpush]
      exact .move hcaller (.breakOff hphase hpush)
    | ok result =>
      simp only [hpush]
      exact .append hcaller hphase hpush
  | done r => exact .move hcaller (.rest hphase)

theorem evolves_act (w : World) (a : Act) : w.Evolves a (w.act a) := by
  cases a with
  | start sessionId resourceOwner command maxRetries => exact .enter
  | step number moment =>
    simp only [act]
    split
    · next caller hcaller => exact evolves_advance hcaller moment
    · exact .idle
  | foreign now who condition batch =>
    simp only [act]
    split
    · next events store hpush => exact .foreign hpush
    · exact .idle
    · exact .idle

/-- What holds of the first world and is kept by everything that an act can do holds after every
run. Each act may be taken to happen after a run, which is a beginning of the whole one. -/
theorem after_invariant {P : World → Prop} (hinit : P {}) {acts : List Act}
    (hact : ∀ past a w', past ++ [a] <+: acts → P (after past) → (after past).Evolves a w' → P w') :
    P (after acts) := by
  induction acts using List.reverseRecOn with
  | nil => exact hinit
  | append_singleton acts a ih =>
    rw [after_concat]
    have hpast : P (after acts) :=
      ih fun past b w' hb => hact past b w' (hb.trans (List.prefix_append acts [a]))
    exact hact acts a _ List.prefix_rfl hpast ((after acts).evolves_act a)

variable {w' : World} {a : Act}

/-- An act leaves a call where it is, or lets it move, or admits what it appends. -/
theorem Evolves.exists_next (h : w.Evolves a w') {number : Nat} {caller : Caller}
    (hcaller : w.callers[number]? = some caller) :
    ∃ next, w'.callers[number]? = some next ∧
      (next = caller ∨ (∃ moment, caller.Moves w.store moment next) ∨
        ∃ m events appended, caller.call.phase = .appending m events ∧
          next = ⟨caller.call.afterAppend m (.ok appended), caller.asked⟩) := by
  obtain ⟨hlt, -⟩ := List.getElem?_eq_some_iff.mp hcaller
  cases h with
  | enter => exact ⟨caller, (List.getElem?_append_left hlt).trans hcaller, .inl rfl⟩
  | idle | foreign => exact ⟨caller, hcaller, .inl rfl⟩
  | @move other moment moving next hmoving hmoves =>
    by_cases hother : other = number
    · subst hother
      obtain rfl := Option.some.inj (hcaller.symm.trans hmoving)
      exact ⟨next, List.getElem?_set_self hlt, .inr (.inl ⟨moment, hmoves⟩)⟩
    · exact ⟨caller, (List.getElem?_set_ne hother).trans hcaller, .inl rfl⟩
  | @append other moment moving m events appended store hmoving hphase hpush =>
    by_cases hother : other = number
    · subst hother
      obtain rfl := Option.some.inj (hcaller.symm.trans hmoving)
      exact ⟨_, List.getElem?_set_self hlt, .inr (.inr ⟨m, events, appended, hphase, rfl⟩)⟩
    · exact ⟨caller, (List.getElem?_set_ne hother).trans hcaller, .inl rfl⟩

/-- A call at its end stays where it is. -/
theorem Evolves.caller_of_done (h : w.Evolves a w') {number : Nat} {caller : Caller}
    (hcaller : w.callers[number]? = some caller) {r : Completion Outcome}
    (hdone : caller.call.phase = .done r) : w'.callers[number]? = some caller := by
  obtain ⟨next, hnext, rfl | ⟨moment, hmoves⟩ | ⟨m, events, appended, hphase, -⟩⟩ :=
    h.exists_next hcaller
  · exact hnext
  · rwa [hmoves.eq_of_done hdone] at hnext
  · rw [hphase] at hdone
    cases hdone

/-! ### The log -/

/-- Every act leaves the log as it is or extends it at its end. -/
theorem Evolves.log_prefix (h : w.Evolves a w') : w.store.log <+: w'.store.log := by
  cases h with
  | enter | idle | move => exact List.prefix_rfl
  | append hcaller hphase hpush => exact ⟨_, (Store.push_log hpush).1.symm⟩
  | foreign hpush => exact ⟨_, (Store.push_log hpush).1.symm⟩

/-- The ledger has the events of the log, in the same order. -/
theorem after_ledger (acts : List Act) :
    (after acts).ledger.map Entry.event = (after acts).store.log := by
  refine after_invariant (P := fun w => w.ledger.map Entry.event = w.store.log) rfl
    fun past a w' _ ih hev => ?_
  cases hev with
  | enter | idle | move => exact ih
  | append hcaller hphase hpush =>
    simp [put, extend, ih, (Store.push_log hpush).1, Function.comp_def]
  | foreign hpush => simp [extend, ih, (Store.push_log hpush).1, Function.comp_def]

/-- The entries of one stream, oldest first. -/
def entries (w : World) (key : StreamKey) : List Entry :=
  w.ledger.filter fun x => x.event.key == key

theorem map_event_entries (acts : List Act) (key : StreamKey) :
    ((after acts).entries key).map Entry.event = (after acts).store.stream key := by
  rw [Store.stream, ← after_ledger, List.filter_map]
  rfl

@[simp] theorem entries_put (w : World) (number : Nat) (caller : Caller) (key : StreamKey) :
    (w.put number caller).entries key = w.entries key := rfl

/-- Events that come into one stream are entered at its end, and into no other stream. -/
theorem entries_extend {w : World} {store : Store} {appended : List Event} {origin : Option Origin}
    {who : StreamKey} (hkey : ∀ e ∈ appended, e.key = who) (key : StreamKey) :
    (w.extend store appended origin).entries key =
      w.entries key ++ if key = who then appended.map fun e => ⟨e, origin⟩ else [] := by
  rw [entries, extend, List.filter_append]
  refine congrArg _ ?_
  split
  · next hk =>
    refine List.filter_eq_self.mpr fun x hx => ?_
    obtain ⟨e, he, rfl⟩ := List.mem_map.mp hx
    simp [hk, hkey e he]
  · next hk =>
    refine List.filter_eq_nil_iff.mpr fun x hx => ?_
    obtain ⟨e, he, rfl⟩ := List.mem_map.mp hx
    simpa [hkey e he] using Ne.symm hk

/-- The store of a world is sound. -/
theorem sound_after (acts : List Act) : (after acts).store.Sound := by
  refine after_invariant (P := fun w => w.store.Sound) Store.Sound.empty
    fun past a w' _ hsound hev => ?_
  cases hev with
  | enter | idle | move => exact hsound
  | append hcaller hphase hpush => exact hsound.push hpush
  | foreign hpush => exact hsound.push hpush

end World

/-! ### A call alone -/

theorem Call.run_of_done {σ : Type} {w : Surroundings σ} {c : Call} {s : σ}
    {r : Completion Outcome} (h : c.phase = .done r) : c.run w s = (r, s) := by
  rw [Call.run]
  split
  · next r' h' => rw [h] at h'; cases h'; rfl
  all_goals next h' => rw [h] at h'; cases h'

theorem Call.run_of_not_done {σ : Type} {w : Surroundings σ} {c : Call} {s : σ}
    (h : ∀ r, c.phase ≠ .done r) : c.run w s = (c.step w s).1.run w (c.step w s).2 := by
  rw [Call.run]
  split
  · next r h' => exact absurd h' (h r)
  all_goals rfl

/-- A step of a call does not change whose desk it is, nor the moment. -/
theorem Desk.step_keeps (c : Call) (d : Desk) :
    (c.step Desk.surroundings d).2.number = d.number ∧
      (c.step Desk.surroundings d).2.moment = d.moment := by
  cases hphase : c.phase with
  | loading => simp [Call.step, hphase]
  | claiming m events => simp [Call.step, hphase]
  | verifying m check => simp [Call.step, hphase]
  | appending m events =>
    cases hpush : d.store.push d.moment.now m.identity (.of m)
        (events.map SessionEvent.toPending) with
    | error e => simp [Call.step, hphase, Desk.push, hpush]
    | overflow => simp [Call.step, hphase, Desk.push, hpush]
    | ok result => simp [Call.step, hphase, Desk.push, hpush]
  | done r => simp [Call.step, hphase]

namespace World

/-- **Steps of a call that is left alone.** When only one call takes steps, it comes to the end
that running it leads to, and the store is the one that running it leaves. -/
theorem exists_steps_run (number : Nat) (moment : Moment) (w : World) {caller : Caller}
    (hcaller : w.callers[number]? = some caller) :
    ∃ (n : Nat) (next : Caller),
      let run := caller.call.run Desk.surroundings
        ⟨w.store, w.ledger, number, caller.asked, moment⟩
      next.call.phase = .done run.1 ∧
        (List.replicate n (Act.step number moment)).foldl act w =
          ⟨run.2.store, run.2.ledger, w.callers.set number next⟩ := by
  induction hrest : caller.call.remaining using Nat.strong_induction_on generalizing w caller with
  | _ rest ih =>
    obtain ⟨hlt, hget⟩ := List.getElem?_eq_some_iff.mp hcaller
    by_cases hdone : ∃ r, caller.call.phase = .done r
    · obtain ⟨r, hr⟩ := hdone
      refine ⟨0, caller, by rw [Call.run_of_done hr, hr], ?_⟩
      rw [Call.run_of_done hr, ← hget, List.set_getElem_self]
      rfl
    · have hmoving : ∀ r, caller.call.phase ≠ .done r := fun r hr => hdone ⟨r, hr⟩
      have hless := Call.remaining_step_lt Desk.surroundings caller.call
        ⟨w.store, w.ledger, number, caller.asked, moment⟩ hmoving
      have hkeeps := Desk.step_keeps caller.call
        ⟨w.store, w.ledger, number, caller.asked, moment⟩
      obtain ⟨call, ⟨store, ledger, number', asked, moment'⟩, hstep⟩ :
          ∃ call desk, caller.call.step Desk.surroundings
            ⟨w.store, w.ledger, number, caller.asked, moment⟩ = (call, desk) := ⟨_, _, rfl⟩
      rw [hstep] at hless hkeeps
      obtain ⟨rfl, rfl⟩ : number' = number ∧ moment' = moment := hkeeps
      have hact : w.act (.step number' moment') =
          ⟨store, ledger, w.callers.set number' ⟨call, asked⟩⟩ := by
        simp only [act, hcaller, advance, hstep]
      obtain ⟨n, next, hphase, hend⟩ := ih call.remaining (hrest ▸ hless)
        ⟨store, ledger, w.callers.set number' ⟨call, asked⟩⟩ (List.getElem?_set_self hlt) rfl
      refine ⟨n + 1, next, ?_, ?_⟩
      · rw [Call.run_of_not_done hmoving, hstep, hphase]
      · rw [List.replicate_succ, List.foldl_cons, hact, hend, Call.run_of_not_done hmoving, hstep,
          List.set_set]

/-- **Executing a command is a run of the world.** A call that begins and is left alone ends as
executing its command ends. -/
theorem exists_steps_execute (w : World) (moment : Moment) (policy : RetryPolicy)
    (sessionId : String) (resourceOwner : Option String) (command : Command) :
    ∃ (n : Nat) (next : Caller),
      let run := execute Desk.surroundings policy sessionId resourceOwner command
        ⟨w.store, w.ledger, w.callers.length, none, moment⟩
      next.call.phase = .done run.1 ∧
        (Act.start sessionId resourceOwner command policy.maxRetries ::
            List.replicate n (Act.step w.callers.length moment)).foldl act w =
          ⟨run.2.store, run.2.ledger, w.callers ++ [next]⟩ := by
  let start : World := w.act (.start sessionId resourceOwner command policy.maxRetries)
  have hcaller : start.callers[w.callers.length]? = some _ := List.getElem?_concat_length
  obtain ⟨n, next, hphase, hend⟩ := exists_steps_run w.callers.length moment start hcaller
  refine ⟨n, next, hphase, ?_⟩
  rw [List.foldl_cons]
  refine hend.trans ?_
  simp [start, act, execute]

end World

end SessionLedger
