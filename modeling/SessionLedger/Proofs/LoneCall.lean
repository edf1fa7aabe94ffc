import SessionLedger.Proofs.Opening

/-!
# A call that is left alone

Somebody asks for a command, and its call takes its steps one after the other while nobody else does
anything. The moments of its steps may be what they will: the clock goes as it likes, and the
verifier says what it likes. Then the store stays as it is up to the moment at which the call
appends, if it comes to that, and this is its last step. So whatever the call knows it knows of the
store from which it began, and what it leaves behind is that store, or the store with its own
events.

Nothing is assumed of the store. It may be one that calls have led to, or one that was imported.

## Main definitions

* `Errand`, `World.carryOut` — a call with the moments of its steps, and what it does to a world
* `Caller.Steps` — one step of a call, with the store before and afterwards
* `Caller.Resolved` — a call that has decided on events, and is to append them
* `Caller.Alone`, `Caller.Appended` — what holds of a call that has changed nothing so far, and of
  one that has appended

## Main results

* `World.exists_carryOut_execute` — executing a command is an errand
* `World.carryOut_induction` — what holds of store and call at first and is kept by each step of the
  call holds after the errand
* `Caller.Alone.of_moves` — what a call knows of the store
* `World.carryOut_cases` — an errand leaves the store as it is, or with the events of its call
-/

namespace SessionLedger

/-! ### Errands -/

/-- A command that somebody asks for, and the moments at which its call takes its steps. -/
structure Errand where
  sessionId : String
  resourceOwner : Option String
  command : Command
  maxRetries : UInt32
  moments : List Moment

namespace Errand

/-- The call at its beginning. -/
def call (e : Errand) : Call where
  sessionId := e.sessionId
  resourceOwner := e.resourceOwner
  command := e.command
  maxRetries := e.maxRetries

/-- What happens when the errand is carried out by the call of a number. -/
def acts (e : Errand) (number : Nat) : List Act :=
  .start e.sessionId e.resourceOwner e.command e.maxRetries :: e.moments.map (.step number)

end Errand

/-- Somebody asks for a token of the session, on behalf of the owner. At every moment the verifier
is content. -/
def tokenErrand (owner : Option String) (steps : Nat) : Errand :=
  ⟨"s", owner, .setToken, 3, List.replicate steps World.contentMoment⟩

/-- One step of a call at a moment, with the store before and afterwards. -/
inductive Caller.Steps (moment : Moment) (s : Store) (c : Caller) : Store → Caller → Prop
  | move {next : Caller} (hmoves : c.Moves s moment next) : Steps moment s c s next
  | append {m : Model} {events : List SessionEvent} {appended : List Event} {s' : Store}
    (hphase : c.call.phase = .appending m events)
    (hpush : s.push moment.now m.identity (.of m) (events.map SessionEvent.toPending) =
      .ok (appended, s')) :
    Steps moment s c s' ⟨c.call.afterAppend m (.ok appended), c.asked⟩

theorem Caller.Steps.request_eq {moment : Moment} {s s' : Store} {c next : Caller}
    (h : c.Steps moment s s' next) : next.call.request = c.call.request := by
  cases h with
  | move hmoves => exact hmoves.request_eq
  | append => exact Call.request_afterAppend ..

namespace World

variable {w : World} {number : Nat} {caller : Caller} {errand : Errand}

/-- The world after an errand on which nobody else has done anything. -/
def carryOut (w : World) (errand : Errand) : World :=
  (errand.acts w.callers.length).foldl act w

/-- An errand after a run is part of a longer run. -/
theorem carryOut_after (acts : List Act) (errand : Errand) :
    (after acts).carryOut errand = after (acts ++ errand.acts (after acts).callers.length) :=
  List.foldl_append.symm

theorem sound_carryOut (acts : List Act) (errand : Errand) :
    ((after acts).carryOut errand).store.Sound := by
  rw [carryOut_after]
  exact sound_after _

/-- Executing a command is an errand: for some number of steps, all at the same moment, the call
ends as executing its command ends, and leaves the same store. -/
theorem exists_carryOut_execute (w : World) (moment : Moment) (policy : RetryPolicy)
    (sessionId : String) (resourceOwner : Option String) (command : Command) :
    ∃ (n : Nat) (next : Caller),
      let run := execute Desk.surroundings policy sessionId resourceOwner command
        ⟨w.store, w.ledger, w.callers.length, none, moment⟩
      next.call.phase = .done run.1 ∧
        w.carryOut ⟨sessionId, resourceOwner, command, policy.maxRetries,
          List.replicate n moment⟩ = ⟨run.2.store, run.2.ledger, w.callers ++ [next]⟩ := by
  obtain ⟨n, next, hphase, hend⟩ :=
    exists_steps_execute w moment policy sessionId resourceOwner command
  refine ⟨n, next, hphase, ?_⟩
  rw [carryOut, Errand.acts, List.map_replicate]
  exact hend

theorem exists_steps_act (hcaller : w.callers[number]? = some caller) (moment : Moment) :
    ∃ next, (w.act (.step number moment)).callers[number]? = some next ∧
      caller.Steps moment w.store (w.act (.step number moment)).store next := by
  obtain ⟨hlt, -⟩ := List.getElem?_eq_some_iff.mp hcaller
  have hact : w.act (.step number moment) = w.advance number caller moment := by
    simp only [act, hcaller]
  have hnext (next : Caller) : (w.callers.set number next)[number]? = some next :=
    List.getElem?_set_self hlt
  rw [hact, advance_eq]
  cases hphase : caller.call.phase with
  | loading => exact ⟨_, hnext _, .move (.load hphase)⟩
  | claiming m events => exact ⟨_, hnext _, .move (.claim hphase)⟩
  | verifying m check => exact ⟨_, hnext _, .move (.verify hphase)⟩
  | appending m events =>
    cases hpush : w.store.push moment.now m.identity (.of m)
        (events.map SessionEvent.toPending) with
    | error e =>
      simp only [hpush]
      exact ⟨_, hnext _, .move (.reject hphase hpush)⟩
    | overflow =>
      simp only [hpush]
      exact ⟨_, hnext _, .move (.breakOff hphase hpush)⟩
    | ok result =>
      simp only [hpush]
      exact ⟨_, hnext _, .append hphase hpush⟩
  | done r => exact ⟨_, hnext _, .move (.rest hphase)⟩

/-- What holds of store and call before some steps of the call, and is kept by each, holds after
them. -/
theorem steps_induction {P : Store → Caller → Prop} {moments : List Moment}
    (hcaller : w.callers[number]? = some caller) (h : P w.store caller)
    (hstep : ∀ moment ∈ moments, ∀ s c s' c', P s c → c.Steps moment s s' c' → P s' c') :
    ∃ last, ((moments.map (Act.step number)).foldl act w).callers[number]? = some last ∧
      P ((moments.map (Act.step number)).foldl act w).store last := by
  induction moments generalizing w caller with
  | nil => exact ⟨caller, hcaller, h⟩
  | cons moment moments ih =>
    obtain ⟨next, hnext, hsteps⟩ := exists_steps_act hcaller moment
    exact ih hnext (hstep moment List.mem_cons_self _ _ _ _ h hsteps)
      fun later hlater => hstep later (List.mem_cons_of_mem moment hlater)

/-- **Induction on the steps of a call that is left alone.** What holds of the store and of the call
at its beginning, and is kept by each of its steps, holds after the errand. -/
theorem carryOut_induction {P : Store → Caller → Prop} (hstart : P w.store ⟨errand.call, none⟩)
    (hstep : ∀ moment ∈ errand.moments, ∀ s c s' c', P s c → c.Steps moment s s' c' → P s' c') :
    ∃ last, (w.carryOut errand).callers[w.callers.length]? = some last ∧
      P (w.carryOut errand).store last :=
  steps_induction (w := w.act (.start errand.sessionId errand.resourceOwner errand.command
    errand.maxRetries)) List.getElem?_concat_length hstart hstep

end World

/-! ### Knowing the store -/

/-- The call has decided, on the model that it has loaded from the store, on events that are to be
appended. If the session has not begun, the stream has been found to be vacant. -/
structure Caller.Resolved (s : Store) (c : Caller) (m : Model) (events : List SessionEvent) :
    Prop where
  loaded : s.load c.call.sessionId c.call.resourceOwner = .ok m
  decided : ∃ d, c.call.Decides m d ∧ d.LeadsTo c.asked events
  nonempty : events ≠ []
  valid : ∀ e ∈ events, e.faults = []
  vacant : m.facts.state = .uninitialized → s.latest m.identity.key = 0

/-- What holds of a call that has been alone with the store and has not changed it. -/
def Caller.Alone (s : Store) (c : Caller) : Prop :=
  match c.call.phase with
  | .loading | .done (.error _) | .done .overflow => True
  | .claiming m events =>
    s.load c.call.sessionId c.call.resourceOwner = .ok m ∧ c.call.Decides m (.ifVacant events)
  | .verifying m check =>
    s.load c.call.sessionId c.call.resourceOwner = .ok m ∧ c.call.Decides m (.consult check)
  | .appending m events => c.Resolved s m events
  | .done (.ok outcome) =>
    s.load c.call.sessionId c.call.resourceOwner = .ok outcome.model ∧ outcome.changed = false

/-- The call has appended, at one of some moments, what it had decided on, and that was its end. -/
def Caller.Appended (moments : List Moment) (s s' : Store) (c : Caller) : Prop :=
  ∃ moment ∈ moments, ∃ m events appended, c.Resolved s m events ∧
    s.push moment.now m.identity (.of m) (events.map SessionEvent.toPending) =
      .ok (appended, s') ∧
    c.call.phase = .done (match m.loaded appended with
      | .ok m' => .ok ⟨m', c.call.attempt, true⟩
      | .error e => .error e)

/-- A call that leads to events on a session that has not begun is to open it. -/
theorem Call.Decides.ifVacant {c : Call} {m : Model} {d : Decision} {asked : Option Consultation}
    {events : List SessionEvent} (hd : c.Decides m d) (hleads : d.LeadsTo asked events)
    (hnonempty : events ≠ []) (hstate : m.facts.state = .uninitialized) : d = .ifVacant events := by
  obtain ⟨now, minted, rfl⟩ := hd
  cases hcommand : c.command with
  | create userAgent =>
    rw [hcommand, Command.decide, if_neg (by simp [hstate])] at hleads
    rw [Command.decide, if_neg (by simp [hstate])]
    exact congrArg _ hleads.symm
  | _ =>
    have hactive := hleads.active hnonempty (by rw [hcommand]; rfl)
    rw [hstate] at hactive
    cases hactive

namespace Caller

variable {s : Store} {m : Model} {events : List SessionEvent} {moment : Moment}

theorem alone_settle {c : Call} {asked : Option Consultation} {d : Decision}
    (hload : s.load c.sessionId c.resourceOwner = .ok m) (hd : c.Decides m d)
    (hleads : d.LeadsTo asked events)
    (hvacant : d = .ifVacant events → s.latest m.identity.key = 0) :
    Caller.Alone s ⟨c.settle m events, asked⟩ := by
  rcases c.settle_eq m events with ⟨-, hnothing⟩ | ⟨e, -, hfault⟩ | ⟨hnonempty, hvalid, hsettle⟩
  · rw [hnothing]
    exact ⟨hload, rfl⟩
  · rw [hfault]
    trivial
  · rw [hsettle]
    exact ⟨hload, ⟨d, hd, hleads⟩, hnonempty, hvalid,
      fun hstate => hvacant (hd.ifVacant hleads hnonempty hstate)⟩

/-- What a call knows of the store it still knows when it has moved. -/
theorem Alone.of_moves {c next : Caller} (h : c.Alone s) (hmoves : c.Moves s moment next) :
    next.Alone s := by
  cases hmoves with
  | load hphase =>
    rw [Call.afterLoad]
    split
    · next m hload =>
      have hload : s.load c.call.sessionId c.call.resourceOwner = .ok m := hload
      cases hd : c.call.command.decide moment.now moment.minted m with
      | refuse refusal => trivial
      | append events => exact alone_settle hload ⟨_, _, hd⟩ rfl (by simp)
      | ifVacant events => exact ⟨hload, _, _, hd⟩
      | consult check => exact ⟨hload, _, _, hd⟩
    · trivial
  | @claim m events hphase =>
    rw [Alone, hphase] at h
    rw [Call.afterClaim]
    by_cases htaken : 0 < s.latest m.identity.key
    · simp only [htaken, if_true]
      trivial
    · simp only [htaken, if_false]
      exact alone_settle h.1 h.2 rfl fun _ => UInt64.le_zero_iff.mp (UInt64.not_lt.mp htaken)
  | @verify m check hphase =>
    rw [Alone, hphase] at h
    cases hverdict : moment.verdict check with
    | error e => trivial
    | ok v =>
      rw [Call.afterVerdict]
      cases hconclude : check.conclude v with
      | error refusal => trivial
      | ok events => exact alone_settle h.1 h.2 ⟨v, rfl, hconclude⟩ (by simp)
  | reject hphase hpush =>
    simp only [Call.afterAppend]
    split
    · rcases c.call.again_cases with ⟨-, heq⟩ | ⟨-, heq⟩ <;> rw [heq] <;> trivial
    · trivial
  | breakOff hphase hpush => trivial
  | rest hphase => exact h

/-- Whatever changes of a call in its course, it has decided on the same. -/
theorem Resolved.congr {c next : Caller} (h : c.Resolved s m events)
    (hrequest : next.call.request = c.call.request) (hasked : next.asked = c.asked) :
    next.Resolved s m events := by
  obtain ⟨d, hd, hleads⟩ := h.decided
  refine ⟨?_, ⟨d, hd.congr hrequest, hasked ▸ hleads⟩, h.nonempty, h.valid, h.vacant⟩
  rw [Call.sessionId_eq hrequest, Call.resourceOwner_eq hrequest]
  exact h.loaded

theorem Alone.resolved {c : Caller} (h : c.Alone s) (hphase : c.call.phase = .appending m events) :
    c.Resolved s m events := by
  rw [Alone, hphase] at h
  exact h

/-- A call that knows the store, and is admitted, appends what it has decided on and is at its
end. -/
theorem Alone.appended {c : Caller} (h : c.Alone s) (hphase : c.call.phase = .appending m events)
    {appended : List Event} {s' : Store} {moments : List Moment} (hmoment : moment ∈ moments)
    (hpush : s.push moment.now m.identity (.of m) (events.map SessionEvent.toPending) =
      .ok (appended, s')) :
    Caller.Appended moments s s' ⟨c.call.afterAppend m (.ok appended), c.asked⟩ := by
  have hresolved : Caller.Resolved s ⟨c.call.afterAppend m (.ok appended), c.asked⟩ m events :=
    (h.resolved hphase).congr (Call.request_afterAppend ..) rfl
  refine ⟨moment, hmoment, m, events, appended, hresolved, hpush, ?_⟩
  simp only [Call.afterAppend]
  cases m.loaded appended <;> rfl

theorem Appended.of_steps {s' s'' : Store} {c next : Caller} {moments : List Moment}
    (h : c.Appended moments s s') (hsteps : c.Steps moment s' s'' next) :
    next.Appended moments s s'' := by
  obtain ⟨-, -, m, -, appended, -, -, hdone⟩ := id h
  cases hsteps with
  | move hmoves => rwa [hmoves.eq_of_done hdone]
  | append hphase =>
    rw [hphase] at hdone
    cases hdone

end Caller

/-- **What an errand does.** The call that carries it out has its request. Either the store is as it
was, and the call knows of it what is to be known; or the call has appended what it had decided on,
and that was its end. -/
theorem World.carryOut_cases (w : World) (errand : Errand) :
    ∃ last, (w.carryOut errand).callers[w.callers.length]? = some last ∧
      last.call.request = errand.call.request ∧
      ((w.carryOut errand).store = w.store ∧ last.Alone w.store ∨
        last.Appended errand.moments w.store (w.carryOut errand).store) := by
  refine carryOut_induction (P := fun s c => c.call.request = errand.call.request ∧
    (s = w.store ∧ c.Alone w.store ∨ c.Appended errand.moments w.store s))
    ⟨rfl, .inl ⟨rfl, trivial⟩⟩ ?_
  rintro moment hmoment s c s' c' ⟨hrequest, h⟩ hsteps
  refine ⟨hsteps.request_eq.trans hrequest, ?_⟩
  rcases h with ⟨rfl, halone⟩ | happended
  · cases hsteps with
    | move hmoves => exact .inl ⟨rfl, halone.of_moves hmoves⟩
    | append hphase hpush => exact .inr (halone.appended hphase hmoment hpush)
  · exact .inr (happended.of_steps hsteps)

end SessionLedger
