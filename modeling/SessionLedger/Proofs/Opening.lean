import SessionLedger.Proofs.Ownership
import SessionLedger.Proofs.Recounting

/-!
# Opening a session once

Whoever opens a session has looked twice whether there is one: its model was empty, and the stream
had no position. Neither look sees what happens between it and the append. Only the append's
condition does, and that is asked with the model's query.

So a session is opened at most once as long as that query sees all there is to see. There is one
case in which it does not. A call that names an owner looks for the events of that owner only. If in
the meantime somebody who names none has opened the session, its stream belongs to nobody, and so
the store does not turn the call away either: both opened the session, and both are told so.

## Main definitions

* `openings` — how often a session was opened
* `OpenersSee` — whoever opened a session sees all of its stream

## Main results

* `Caller.Appends.added_iff` — only calls that are to open a session append an opening
* `World.openings_le_one` — a session is opened at most once, the one case apart
* `World.opened_once` — and only one of the calls that are to open it is told that it did
* `World.opened_twice` — the one case
-/

namespace SessionLedger

/-- How often a session was opened in the events. -/
def openings (events : List Event) : Nat :=
  events.countP fun e => e.kind == SessionEvent.Kind.added.name

@[simp] theorem openings_append (events more : List Event) :
    openings (events ++ more) = openings events + openings more :=
  List.countP_append

theorem openings_of_unknown {events : List Event}
    (hunknown : ∀ e ∈ events, SessionEvent.Kind.ofName? e.kind = none) : openings events = 0 := by
  refine List.countP_eq_zero.mpr fun e he hkind => ?_
  have hnone := hunknown e he
  simp [beq_iff_eq.mp hkind] at hnone

theorem openings_singleton {stored : Event} {e : SessionEvent} (h : stored.Carries e) :
    openings [stored] = if e.kind = .added then 1 else 0 := by
  have hiff : stored.kind = SessionEvent.Kind.added.name ↔ e.kind = .added := by
    rw [h.kind_eq]
    exact ⟨fun hname => SessionEvent.Kind.name_injective hname, congrArg _⟩
  simp [openings, hiff]

/-- Two different events were not both openings, if there was at most one. -/
theorem eq_of_openings_le_one {entries : List Entry}
    (hone : openings (entries.map Entry.event) ≤ 1) {x y : Entry} (hx : x ∈ entries)
    (hy : y ∈ entries) (hxadded : x.event.kind = SessionEvent.Kind.added.name)
    (hyadded : y.event.kind = SessionEvent.Kind.added.name) : x = y := by
  obtain ⟨earlier, later, rfl⟩ := List.append_of_mem hx
  have hfirst : openings [x.event] = 1 := by simp [openings, hxadded]
  rw [List.map_append, List.map_cons, ← List.singleton_append, openings_append, openings_append,
    hfirst] at hone
  have hothers : y ∉ earlier ++ later := by
    intro hother
    have hpos : 0 < openings ((earlier ++ later).map Entry.event) :=
      List.countP_pos_iff.mpr ⟨y.event, List.mem_map_of_mem hother, beq_iff_eq.mpr hyadded⟩
    rw [List.map_append, openings_append] at hpos
    omega
  rcases List.mem_append.mp hy with hy | hy
  · exact absurd (List.mem_append_left later hy) hothers
  · rcases List.mem_cons.mp hy with rfl | hy
    · rfl
    · exact absurd (List.mem_append_right earlier hy) hothers

namespace Facts

variable {f f' : Facts} {now : Instant} {e : SessionEvent} {events : List Event}

theorem state_of_record (h : f.record now e = some f') :
    f'.state = (e.state? now).getD f.state := by
  rw [record_eq] at h
  split at h
  · cases h
  · cases h
    rfl

/-- A session of which the facts say that it has not begun was not opened. -/
theorem openings_of_fold (h : events.foldlM apply {} = .ok f) (hstate : f.state = .uninitialized) :
    openings events = 0 := by
  refine foldlM_induction (P := fun events g => g.state = .uninitialized → openings events = 0)
    (fun _ => rfl) (fun events g stored g' ih happly hstate => ?_) h hstate
  rw [openings_append]
  rcases apply_eq_ok_iff.mp happly with ⟨hunknown, rfl⟩ | ⟨e, hcarries, hrecord⟩
  · rw [ih hstate, openings_of_unknown (by simpa using hunknown)]
  · rw [state_of_record hrecord] at hstate
    rw [openings_singleton hcarries]
    cases e with
    | added | terminated => cases hstate
    | _ => exact ih hstate

end Facts

/-! ### Who opens sessions -/

/-- Every other command than the one that opens a session leads to something only if the session is
active. -/
theorem Decision.LeadsTo.active {command : Command} {now : Instant} {minted : Minted} {m : Model}
    {asked : Option Consultation} {events : List SessionEvent}
    (h : (command.decide now minted m).LeadsTo asked events) (hnonempty : events ≠ [])
    (hcommand : command.isCreate = false) : m.facts.state = .active := by
  cases command with
  | create userAgent => cases hcommand
  | terminate tokenId =>
    rw [Command.decide] at h
    split at h
    · exact absurd h not_false
    · exact absurd h hnonempty
    · assumption
  | _ => exact (Decision.LeadsTo.of_whileActive h).1

/-- The command that opens a session leads to nothing else. -/
theorem Decision.LeadsTo.added {command : Command} {now : Instant} {minted : Minted} {m : Model}
    {asked : Option Consultation} {events : List SessionEvent}
    (h : (command.decide now minted m).LeadsTo asked events) (hcommand : command.isCreate = true) :
    ∃ userAgent, events = [.added userAgent] := by
  cases command with
  | create userAgent =>
    rw [Command.decide] at h
    split at h
    · exact absurd h not_false
    · exact ⟨userAgent, h⟩
  | _ => cases hcommand

namespace Caller.Appends

variable {c : Caller} {s : Store} {m : Model} {e : SessionEvent} {stored : Event}

/-- Only calls that are to open a session append an opening, and nothing else. -/
theorem added_iff (h : c.Appends s m e stored) :
    e.kind = .added ↔ c.call.command.isCreate = true := by
  obtain ⟨d, ⟨now, minted, rfl⟩, hleads⟩ := h.decided
  constructor
  · intro hadded
    by_contra hcommand
    have hactive := hleads.active (by simp) (by simpa using hcommand)
    rw [h.warranted.state, if_pos hadded] at hactive
    cases hactive
  · intro hcommand
    obtain ⟨userAgent, hevents⟩ := hleads.added hcommand
    rw [(List.cons.inj hevents).1]
    rfl

/-- A call that knows the stream opens only a session that nobody has opened. -/
theorem openings_le_one (h : c.Appends s m e stored)
    (hknows : e.kind = .added →
      (s.stream m.identity.key).foldlM Facts.apply {} = .ok m.facts)
    (hone : openings (s.stream m.identity.key) ≤ 1) :
    openings (s.stream m.identity.key ++ [stored]) ≤ 1 := by
  rw [openings_append, openings_singleton h.carries]
  split
  · next hadded =>
    have hstate : m.facts.state = .uninitialized := by rw [h.warranted.state, if_pos hadded]
    rw [Facts.openings_of_fold (hknows hadded) hstate]
  · exact hone

end Caller.Appends

/-! ### Every run -/

/-- Whoever opened the session sees all of its stream: either that belongs to somebody, or they name
no owner. -/
def OpenersSee (callers : List Caller) (entries : List Entry) : Prop :=
  (∀ x ∈ entries, x.event.resourceOwner ≠ "") ∨
    ∀ x ∈ entries, x.event.kind = SessionEvent.Kind.added.name → ∀ origin caller,
      x.origin = some origin → callers[origin.number]? = some caller →
      caller.call.request.owner? = none

theorem OpenersSee.of_append {callers : List Caller} {entries more : List Entry}
    (h : OpenersSee callers (entries ++ more)) : OpenersSee callers entries :=
  h.imp (fun howned x hx => howned x (List.mem_append_left more hx))
    fun hunnamed x hx => hunnamed x (List.mem_append_left more hx)

namespace World

variable {acts : List Act} {key : StreamKey}

/-- A call that is to open a session, and is not the exception, knows the stream that it appends
to. -/
theorem knows_stream_of_openersSee {past : List Act} (hpast : past <+: acts) {number : Nat}
    {caller : Caller} (hcaller : (after past).callers[number]? = some caller) {m : Model}
    {e : SessionEvent} {stored : Event} (happends : caller.Appends (after past).store m e stored)
    (hsee : OpenersSee (after acts).callers
      ((after past).entries m.identity.key ++ [⟨stored, some ⟨number, caller.asked⟩⟩]))
    (hadded : e.kind = .added) :
    ((after past).store.stream m.identity.key).foldlM Facts.apply {} = .ok m.facts := by
  refine happends.knows_stream (sound_after past) fun hnamed other hother => ?_
  rcases hsee with howned | hunnamed
  · rw [← map_event_entries] at hother
    obtain ⟨x, hx, rfl⟩ := List.mem_map.mp hother
    exact howned x (List.mem_append_left _ hx)
  · obtain ⟨next, hnext, hrequest⟩ := exists_caller hpast hcaller
    have hkind : stored.kind = SessionEvent.Kind.added.name := by
      rw [happends.carries.kind_eq, hadded]
    have hnone := hunnamed _ (List.mem_append_right _ List.mem_cons_self) hkind _ next rfl hnext
    exact absurd (hrequest ▸ hnone) hnamed

/-- A session is opened at most once. -/
theorem openings_le_one (hsee : OpenersSee (after acts).callers ((after acts).entries key)) :
    openings ((after acts).store.stream key) ≤ 1 := by
  rw [← map_event_entries]
  refine entries_induction acts key
    (P := fun entries => OpenersSee (after acts).callers entries →
      openings (entries.map Entry.event) ≤ 1) (fun _ => Nat.zero_le 1)
    (fun entries more hone hmore hsee => ?_) ?_ hsee
  · have hunknown : ∀ e ∈ more.map Entry.event, SessionEvent.Kind.ofName? e.kind = none :=
      List.forall_mem_map.mpr fun x hx => (hmore x hx).2
    rw [List.map_append, openings_append, openings_of_unknown hunknown]
    exact hone hsee.of_append
  · rintro past number caller m e stored hpast hcaller rfl happends hone hsee
    have hone := hone hsee.of_append
    rw [map_event_entries] at hone
    rw [List.map_append, map_event_entries]
    exact happends.openings_le_one
      (knows_stream_of_openersSee hpast hcaller happends hsee) hone

/-- A call that was to open a session and ended well has opened it. -/
theorem exists_opening {number : Nat}
    {caller : Caller} {outcome : Outcome} (hcaller : (after acts).callers[number]? = some caller)
    (hcommand : caller.call.command.isCreate = true)
    (hdone : caller.call.phase = .done (.ok outcome)) :
    ∃ x ∈ (after acts).entries ⟨sessionType, caller.call.sessionId⟩,
      x.origin.map Origin.number = some number ∧
        x.event.kind = SessionEvent.Kind.added.name := by
  rcases accounted hcaller hdone with ⟨-, x, hx, hnumber⟩ | ⟨-, m, d, hd, hleads⟩
  · obtain ⟨origin, horigin, hnumber'⟩ := Option.map_eq_some_iff.mp hnumber
    obtain ⟨earlier, later, hsplit⟩ := List.append_of_mem hx
    obtain ⟨past, writer, m, e, hpast, -, hwriter, -, happends⟩ :=
      exists_appends hsplit horigin
    have hcreate : writer.call.command.isCreate = true := by
      rwa [← Call.command_eq (request_eq hpast hwriter (hnumber' ▸ hcaller))]
    refine ⟨x, hx, hnumber, ?_⟩
    rw [happends.carries.kind_eq, happends.added_iff.mpr hcreate]
  · obtain ⟨now, minted, rfl⟩ := hd
    obtain ⟨userAgent, hnil⟩ := hleads.added hcommand
    cases hnil

/-- **A session is opened once.** In every run, if the session belongs to somebody, or nobody who
names an owner has opened it: its stream has one opening at most, and at most one of the calls that
are to open it ends well. -/
theorem opened_once (acts : List Act) {sessionId : String}
    (hsee : OpenersSee (after acts).callers ((after acts).entries ⟨sessionType, sessionId⟩)) :
    openings ((after acts).store.stream ⟨sessionType, sessionId⟩) ≤ 1 ∧
      ∀ (number number' : Nat) (caller caller' : Caller) (outcome outcome' : Outcome),
        (after acts).callers[number]? = some caller →
        (after acts).callers[number']? = some caller' →
        caller.call.sessionId = sessionId → caller'.call.sessionId = sessionId →
        caller.call.command.isCreate = true → caller'.call.command.isCreate = true →
        caller.call.phase = .done (.ok outcome) → caller'.call.phase = .done (.ok outcome') →
        number = number' := by
  have hone := openings_le_one hsee
  refine ⟨hone, fun number number' caller caller' outcome outcome' hcaller hcaller' hid hid'
    hcommand hcommand' hdone hdone' => ?_⟩
  obtain ⟨x, hx, hnumber, hadded⟩ := exists_opening hcaller hcommand hdone
  obtain ⟨x', hx', hnumber', hadded'⟩ := exists_opening hcaller' hcommand' hdone'
  rw [hid] at hx
  rw [hid'] at hx'
  rw [← map_event_entries] at hone
  obtain rfl := eq_of_openings_le_one hone hx hx' hadded hadded'
  exact Option.some.inj (hnumber.symm.trans hnumber')

/-- Two owners open a session of the same id. Both have seen no event when the first appends, and
the second tries again. -/
def openingRace : List Act :=
  [.start "s" (some "org") (.create none) 3, .start "s" (some "rival") (.create none) 3,
    .step 0 contentMoment, .step 1 contentMoment, .step 0 contentMoment, .step 1 contentMoment,
    .step 0 contentMoment, .step 1 contentMoment, .step 1 contentMoment, .step 1 contentMoment]

theorem opened_once_openingRace :
    OpenersSee (after openingRace).callers ((after openingRace).entries ⟨sessionType, "s"⟩) ∧
      openings ((after openingRace).store.stream ⟨sessionType, "s"⟩) ≤ 1 ∧
      ∃ caller caller' outcome, (after openingRace).callers[0]? = some caller ∧
        (after openingRace).callers[1]? = some caller' ∧ caller.call.phase = .done (.ok outcome) ∧
        ∀ outcome', caller'.call.phase ≠ .done (.ok outcome') := by
  have hsee : OpenersSee (after openingRace).callers
      ((after openingRace).entries ⟨sessionType, "s"⟩) := .inl (by decide)
  obtain ⟨hone, honly⟩ := opened_once openingRace hsee
  refine ⟨hsee, hone, _, _, _, rfl, rfl, rfl, fun outcome' hdone' => ?_⟩
  exact absurd (honly 0 1 _ _ _ outcome' rfl rfl rfl rfl rfl rfl rfl hdone') (by decide)

/-- A call that names an owner has seen that there is no session, and so has a call that names none,
which then opens it. -/
def unseenOpening : List Act :=
  [.start "s" (some "org") (.create none) 3, .start "s" none (.create none) 3,
    .step 0 contentMoment, .step 0 contentMoment, .step 1 contentMoment, .step 1 contentMoment,
    .step 1 contentMoment, .step 0 contentMoment]

/-- The one case: both calls open the session and end well. -/
theorem opened_twice :
    openings ((after unseenOpening).store.stream ⟨sessionType, "s"⟩) = 2 ∧
      ∃ caller caller' outcome outcome', (after unseenOpening).callers[0]? = some caller ∧
        (after unseenOpening).callers[1]? = some caller' ∧
        caller.call.sessionId = "s" ∧ caller'.call.sessionId = "s" ∧
        caller.call.command.isCreate = true ∧ caller'.call.command.isCreate = true ∧
        caller.call.phase = .done (.ok outcome) ∧ caller'.call.phase = .done (.ok outcome') :=
  ⟨by decide, _, _, _, _, rfl, rfl, rfl, rfl, rfl, rfl, rfl, rfl⟩

end World

end SessionLedger
