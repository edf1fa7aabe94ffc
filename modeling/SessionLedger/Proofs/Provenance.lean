import SessionLedger.Proofs.Justification

/-!
# Where events come from

The ledger says which call has appended an entry. This module connects the entry with that call: at
some moment of the run the call appended it, to the events that stand before it in the stream. So
whatever has to hold at the moment of an append can be read off a finished ledger. In the other
direction, a call that ended well either has an entry, or had nothing to do.

A call changes in its course, but not what it was asked to do. That is its request.

## Main definitions

* `Request` — what a call was asked to do
* `World.Accounted` — a call that ended well has an entry, or had nothing to do

## Main results

* `World.exists_appends` — when, and on what, an entry was appended
* `World.exists_caller` — later in a run, a call still has its request
* `World.done_induction` — induction on the calls that come to a good end
* `World.accounted` — calls that ended well are accounted for
-/

namespace SessionLedger

/-! ### Requests -/

/-- What a call was asked to do. -/
structure Request where
  sessionId : String
  resourceOwner : Option String
  command : Command

namespace Call

variable {c : Call} {m : Model} {outcome : Outcome}

def request (c : Call) : Request := ⟨c.sessionId, c.resourceOwner, c.command⟩

@[simp] theorem request_finish (c : Call) (r : Completion Outcome) :
    (c.finish r).request = c.request := rfl

@[simp] theorem request_settle (c : Call) (m : Model) (events : List SessionEvent) :
    (c.settle m events).request = c.request := by
  rcases c.settle_cases m events with ⟨r, hr⟩ | ⟨-, -, hsettle⟩
  · rw [hr, request_finish]
  · rw [hsettle]
    rfl

@[simp] theorem request_follow (c : Call) (m : Model) (d : Decision) :
    (c.follow m d).request = c.request := by
  cases d with
  | append events => exact request_settle c m events
  | refuse | ifVacant | consult => rfl

@[simp] theorem request_afterLoad (c : Call) (now : Instant) (minted : Minted)
    (answer : Except Error (List Event)) : (c.afterLoad now minted answer).request = c.request := by
  rw [afterLoad]
  split
  · exact request_follow c _ _
  · rfl

@[simp] theorem request_afterClaim (c : Call) (m : Model) (events : List SessionEvent)
    (answer : Except Error UInt64) : (c.afterClaim m events answer).request = c.request := by
  simp only [afterClaim]
  split
  · split
    · rfl
    · exact request_settle c m events
  · rfl

@[simp] theorem request_afterVerdict (c : Call) (m : Model) (check : Check)
    (answer : Except Error Verdict) : (c.afterVerdict m check answer).request = c.request := by
  simp only [afterVerdict]
  split
  · split
    · exact request_settle c m _
    · rfl
  · rfl

@[simp] theorem request_again (c : Call) : c.again.request = c.request := by
  rcases c.again_cases with ⟨-, heq⟩ | ⟨-, heq⟩ <;> rw [heq] <;> rfl

@[simp] theorem request_afterAppend (c : Call) (m : Model) (answer : Completion (List Event)) :
    (c.afterAppend m answer).request = c.request := by
  simp only [afterAppend]
  split
  · split <;> rfl
  · split
    · exact request_again c
    · rfl
  · rfl

theorem command_eq {c' : Call} (h : c'.request = c.request) : c'.command = c.command :=
  congrArg Request.command h

theorem sessionId_eq {c' : Call} (h : c'.request = c.request) : c'.sessionId = c.sessionId :=
  congrArg Request.sessionId h

theorem resourceOwner_eq {c' : Call} (h : c'.request = c.request) :
    c'.resourceOwner = c.resourceOwner :=
  congrArg Request.resourceOwner h

theorem Decides.congr {c' : Call} {d : Decision} (h : c.Decides m d)
    (hrequest : c'.request = c.request) : c'.Decides m d := by
  obtain ⟨now, minted, rfl⟩ := h
  exact ⟨now, minted, by rw [command_eq hrequest]⟩

/-- A call that settles and is at its end already, and well, had nothing to append. It reports the
model that it settled on. -/
theorem eq_nil_of_settle {events : List SessionEvent}
    (h : (c.settle m events).phase = .done (.ok outcome)) :
    events = [] ∧ outcome = ⟨m, c.attempt, false⟩ := by
  rw [settle] at h
  split at h
  · next hempty =>
    cases h
    exact ⟨by simpa using hempty, rfl⟩
  · split at h
    · cases h
    · cases h

/-- A call that ends well when the store has admitted its events has loaded them. It reports a
change. -/
theorem loaded_of_afterAppend {appended : List Event}
    (h : (c.afterAppend m (.ok appended)).phase = .done (.ok outcome)) :
    m.loaded appended = .ok outcome.model ∧ outcome.changed = true := by
  simp only [afterAppend] at h
  split at h
  · next m' hload =>
    cases h
    exact ⟨hload, rfl⟩
  · cases h

/-- No call comes to a good end with an append that has failed. -/
theorem phase_afterAppend_error_ne (c : Call) (m : Model) (e : Error) (outcome : Outcome) :
    (c.afterAppend m (.error e)).phase ≠ .done (.ok outcome) := by
  intro hdone
  simp only [afterAppend] at hdone
  split at hdone
  · rcases c.again_cases with ⟨-, heq⟩ | ⟨-, heq⟩ <;> rw [heq] at hdone <;> cases hdone
  · cases hdone

end Call

theorem Caller.Moves.request_eq {s : Store} {moment : Moment} {c next : Caller}
    (h : c.Moves s moment next) : next.call.request = c.call.request := by
  cases h with
  | load | claim | verify | reject | breakOff => simp
  | rest => rfl

/-- A call that comes to a good end without an append had nothing to do. It reports the model that
it decided on. -/
theorem Caller.Sound.nothing_of_moves {s : Store} {moment : Moment} {c next : Caller}
    {outcome : Outcome} (h : c.Sound s.log) (hmoves : c.Moves s moment next)
    (hdone : next.call.phase = .done (.ok outcome)) :
    next = c ∨ outcome.changed = false ∧ c.call.Saw s.log outcome.model ∧
      ∃ d, c.call.Decides outcome.model d ∧ d.LeadsTo next.asked [] := by
  cases hmoves with
  | load hphase =>
    simp only [Call.afterLoad] at hdone
    split at hdone
    · next m hload =>
      cases hdecide : c.call.command.decide moment.now moment.minted m with
      | append events =>
        rw [hdecide] at hdone
        obtain ⟨rfl, rfl⟩ := Call.eq_nil_of_settle hdone
        exact .inr ⟨rfl, ⟨s.log, List.prefix_rfl, hload⟩, _, ⟨_, _, hdecide⟩, rfl⟩
      | refuse | ifVacant | consult => rw [hdecide] at hdone; cases hdone
    · cases hdone
  | @claim m events hphase =>
    rw [Caller.Sound, hphase] at h
    simp only [Call.afterClaim] at hdone
    split at hdone
    · cases hdone
    · obtain ⟨rfl, rfl⟩ := Call.eq_nil_of_settle hdone
      exact .inr ⟨rfl, h.1, _, h.2, rfl⟩
  | @verify m check hphase =>
    rw [Caller.Sound, hphase] at h
    simp only [Call.afterVerdict] at hdone
    split at hdone
    · next v hverdict =>
      split at hdone
      · next events hconclude =>
        obtain ⟨rfl, rfl⟩ := Call.eq_nil_of_settle hdone
        exact .inr ⟨rfl, h.1, _, h.2, v, by simp [hverdict], hconclude⟩
      · cases hdone
    · cases hdone
  | @reject m events e hphase hpush =>
    exact absurd hdone (c.call.phase_afterAppend_error_ne m e outcome)
  | breakOff hphase hpush => cases hdone
  | rest => exact .inl rfl

namespace World

variable {w w' : World} {a : Act} {acts past : List Act} {key : StreamKey}

/-! ### Later in a run -/

/-- What holds at some moment of a run and is kept by everything that an act can do holds at its
end. -/
theorem invariant_of_prefix {P : World → Prop} (hpast : past <+: acts) (h : P (after past))
    (hact : ∀ w a w', P w → Evolves w a w' → P w') : P (after acts) := by
  obtain ⟨more, rfl⟩ := hpast
  induction more using List.reverseRecOn with
  | nil => rwa [List.append_nil]
  | append_singleton more a ih =>
    rw [← List.append_assoc, after_concat]
    exact hact _ a _ ih (evolves_act _ a)

/-- Later in a run, the log is the one it was, with what has come in the meantime at its end. -/
theorem log_mono (hpast : past <+: acts) :
    (after past).store.log <+: (after acts).store.log :=
  invariant_of_prefix (P := fun w => (after past).store.log <+: w.store.log) hpast
    List.prefix_rfl fun _ _ _ hlog hev => hlog.trans hev.log_prefix

/-- A call keeps its request. -/
theorem Evolves.exists_caller (h : w.Evolves a w') {number : Nat} {caller : Caller}
    (hcaller : w.callers[number]? = some caller) :
    ∃ next, w'.callers[number]? = some next ∧ next.call.request = caller.call.request := by
  obtain ⟨next, hnext, rfl | ⟨moment, hmoves⟩ | ⟨m, events, appended, -, rfl⟩⟩ :=
    h.exists_next hcaller
  · exact ⟨next, hnext, rfl⟩
  · exact ⟨next, hnext, hmoves.request_eq⟩
  · exact ⟨_, hnext, Call.request_afterAppend ..⟩

/-- Later in a run, a call still has its request. -/
theorem exists_caller (hpast : past <+: acts) {number : Nat} {caller : Caller}
    (hcaller : (after past).callers[number]? = some caller) :
    ∃ next, (after acts).callers[number]? = some next ∧
      next.call.request = caller.call.request := by
  refine invariant_of_prefix
    (P := fun w => ∃ next, w.callers[number]? = some next ∧
      next.call.request = caller.call.request) hpast ⟨caller, hcaller, rfl⟩ ?_
  rintro w a w' ⟨next, hnext, hrequest⟩ hev
  obtain ⟨last, hlast, hkept⟩ := hev.exists_caller hnext
  exact ⟨last, hlast, hkept.trans hrequest⟩

/-- Every act leaves the entries of a stream as they are or adds to them at their end. -/
theorem Evolves.entries_mono (h : w.Evolves a w') (key : StreamKey) :
    w.entries key <+: w'.entries key := by
  cases h with
  | enter | idle | move => exact List.prefix_rfl
  | append | foreign => exact (List.prefix_append _ _).filter _

theorem entries_mono (hpast : past <+: acts) (key : StreamKey) :
    (after past).entries key <+: (after acts).entries key :=
  invariant_of_prefix (P := fun w => (after past).entries key <+: w.entries key) hpast
    List.prefix_rfl fun _ _ _ hentries hev => hentries.trans (hev.entries_mono key)

/-- Later in a run, it has the same request. -/
theorem request_eq (hpast : past <+: acts) {number : Nat} {caller next : Caller}
    (hcaller : (after past).callers[number]? = some caller)
    (hnext : (after acts).callers[number]? = some next) :
    next.call.request = caller.call.request := by
  obtain ⟨next', hnext', hrequest⟩ := exists_caller hpast hcaller
  rwa [Option.some.inj (hnext.symm.trans hnext')]

/-! ### From entries to calls -/

/-- **When, and on what, an entry was appended.** At some moment of the run the call that the entry
names appended it, and the stream had just the entries that stand before it. -/
theorem exists_appends {earlier later : List Entry} {x : Entry} {origin : Origin}
    (hsplit : (after acts).entries key = earlier ++ x :: later)
    (horigin : x.origin = some origin) :
    ∃ past caller m e, past <+: acts ∧ (after past).entries key = earlier ∧
      (after past).callers[origin.number]? = some caller ∧ m.identity.key = key ∧
      caller.Appends (after past).store m e x.event := by
  refine entries_induction acts key
    (P := fun entries => ∀ earlier x later origin, entries = earlier ++ x :: later →
      x.origin = some origin →
      ∃ past caller m e, past <+: acts ∧ (after past).entries key = earlier ∧
        (after past).callers[origin.number]? = some caller ∧ m.identity.key = key ∧
        caller.Appends (after past).store m e x.event)
    (fun earlier x later origin hsplit => ?_)
    (fun entries more ih hmore earlier x later origin hsplit horigin => ?_)
    (fun past number caller m e stored hpast hcaller hkey happends ih
      earlier x later origin hsplit horigin => ?_)
    earlier x later origin hsplit horigin
  · cases earlier <;> cases hsplit
  · rcases split_append_cases hsplit with ⟨rest, hold, -⟩ | ⟨first, -, rfl⟩
    · exact ih earlier x rest origin hold horigin
    · -- What comes from elsewhere names no call.
      have hnone := (hmore x (by simp)).1
      exact absurd (hnone.symm.trans horigin) nofun
  · rcases split_concat_cases hsplit with ⟨rest, hold, -⟩ | ⟨rfl, rfl, -⟩
    · exact ih earlier x rest origin hold horigin
    · cases horigin
      exact ⟨past, caller, m, e, hpast, rfl, hcaller, hkey, happends⟩

/-! ### From calls to entries -/

/-- An element of a list in which one place was set is the new one there, or an old one. -/
theorem getElem?_set_cases {α : Type} {l : List α} {i j : Nat} {x y : α}
    (h : (l.set i x)[j]? = some y) : (i = j ∧ x = y) ∨ l[j]? = some y := by
  rw [List.getElem?_set] at h
  split at h
  · next hij =>
    split at h
    · exact .inl ⟨hij, Option.some.inj h⟩
    · cases h
  · exact .inr h

/-- **Induction on good ends.** What holds of a call when it comes to a good end, with nothing to do
or with an append, and holds whatever happens later, holds of every call that has come to one. -/
theorem done_induction {P : World → Nat → Caller → Outcome → Prop}
    (hmono : ∀ {w a w' number caller outcome}, P w number caller outcome → Evolves w a w' →
      P w' number caller outcome)
    (hnothing : ∀ (past : List Act) (number : Nat) (caller next : Caller) (outcome : Outcome)
      (d : Decision), caller.call.Saw (after past).store.log outcome.model →
      caller.call.Decides outcome.model d → d.LeadsTo next.asked [] →
      next.call.request = caller.call.request → outcome.changed = false →
      P ((after past).put number next) number next outcome)
    (happend : ∀ (past : List Act) (number : Nat) (moment : Moment) (caller : Caller) (m : Model)
      (events : List SessionEvent) (appended : List Event) (store : Store) (outcome : Outcome),
      (after past).callers[number]? = some caller → caller.call.phase = .appending m events →
      (after past).store.push moment.now m.identity (.of m) (events.map SessionEvent.toPending) =
        .ok (appended, store) →
      (caller.call.afterAppend m (.ok appended)).phase = .done (.ok outcome) →
      P (((after past).extend store appended (some ⟨number, caller.asked⟩)).put number
        ⟨caller.call.afterAppend m (.ok appended), caller.asked⟩) number
        ⟨caller.call.afterAppend m (.ok appended), caller.asked⟩ outcome)
    {number : Nat} {caller : Caller} {outcome : Outcome}
    (hcaller : (after acts).callers[number]? = some caller)
    (hdone : caller.call.phase = .done (.ok outcome)) : P (after acts) number caller outcome := by
  refine after_invariant (P := fun w => ∀ number caller outcome,
    w.callers[number]? = some caller → caller.call.phase = .done (.ok outcome) →
    P w number caller outcome) (by simp)
    (fun past a w' _ ih hev number caller outcome hcaller hdone => ?_)
    number caller outcome hcaller hdone
  have hold : (after past).callers[number]? = some caller → P w' number caller outcome :=
    fun hcaller => hmono (ih number caller outcome hcaller hdone) hev
  cases hev with
  | enter =>
    rw [List.getElem?_append] at hcaller
    split at hcaller
    · exact hold hcaller
    · obtain rfl := List.mem_singleton.mp (List.mem_of_getElem? hcaller)
      cases hdone
  | idle | foreign => exact hold hcaller
  | @move other moment moving next hmoving hmoves =>
    rcases getElem?_set_cases hcaller with ⟨rfl, rfl⟩ | hcaller
    · have hsound := sound_of_caller past (List.mem_of_getElem? hmoving)
      rcases hsound.nothing_of_moves hmoves hdone with rfl | ⟨hchanged, hsaw, d, hd, hleads⟩
      · exact hold hmoving
      · exact hnothing past _ _ _ _ d hsaw hd hleads hmoves.request_eq hchanged
    · exact hold hcaller
  | @append other moment moving m events appended store hmoving hphase hpush =>
    rcases getElem?_set_cases hcaller with ⟨rfl, rfl⟩ | hcaller
    · exact happend past _ moment _ m events appended store _ hmoving hphase hpush hdone
    · exact hold hcaller

/-- What is known of a call that ended well: it has changed its session and has an entry in its
stream, or it had nothing to do. -/
def Accounted (w : World) (number : Nat) (caller : Caller) (outcome : Outcome) : Prop :=
  (outcome.changed = true ∧ ∃ x ∈ w.entries ⟨sessionType, caller.call.sessionId⟩,
      x.origin.map Origin.number = some number) ∨
    (outcome.changed = false ∧
      ∃ m d, caller.call.Decides m d ∧ d.LeadsTo caller.asked [])

theorem Accounted.mono {number : Nat} {caller : Caller} {outcome : Outcome}
    (h : w.Accounted number caller outcome) (hev : w.Evolves a w') :
    w'.Accounted number caller outcome := by
  rcases h with ⟨hchanged, x, hx, horigin⟩ | hnothing
  · exact .inl ⟨hchanged, x, (hev.entries_mono _).subset hx, horigin⟩
  · exact .inr hnothing

/-- Calls that ended well are accounted for. -/
theorem accounted {number : Nat} {caller : Caller} {outcome : Outcome}
    (hcaller : (after acts).callers[number]? = some caller)
    (hdone : caller.call.phase = .done (.ok outcome)) :
    (after acts).Accounted number caller outcome := by
  refine done_induction (P := Accounted) (fun h hev => h.mono hev)
    (fun past number caller next outcome d _ hd hleads hrequest hchanged => ?_)
    (fun past number moment caller m events appended store outcome hcaller hphase hpush hdone => ?_)
    hcaller hdone
  · exact .inr ⟨hchanged, _, d, hd.congr hrequest, hleads⟩
  · obtain ⟨e, stored, rfl, happends⟩ := appends_of_push hcaller hphase hpush
    refine .inl ⟨(Call.loaded_of_afterAppend hdone).2, ⟨stored, some ⟨number, caller.asked⟩⟩, ?_,
      rfl⟩
    rw [Call.sessionId_eq (Call.request_afterAppend ..), ← happends.key_eq, entries_put,
      entries_extend (Store.push_log hpush).2.2, if_pos rfl]
    simp

end World

end SessionLedger
