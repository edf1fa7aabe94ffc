import SessionLedger.Proofs.FailedLoads
import SessionLedger.Proofs.Provenance
import SessionLedger.Proofs.Recounting
import SessionLedger.Proofs.UnknownKinds

/-!
# Changes of metadata

Whoever sets metadata names entries, and an entry without a value removes its key. The command
appends an event only of those entries that change something, and no event if none does. It finds
them by comparing values, with one rule for keys that the session has and another for keys that it
has not. That this is the difference, no more and no less, is not in the rules themselves. It rests
on an invariant of the facts: no key has an empty value. If one had, an entry that removes it would
be taken for no change.

So what the event does to the session is what all entries would do, and who sets the same metadata
once more appends nothing.

## Main definitions

* `Metadata.Live` — no key has an empty value
* `Metadata.Difference` — some entries are just those that change something
* `Model.Holds` — the session has the entries already

## Main results

* `Facts.difference_filter` — the command's comparison finds the difference
* `Model.live_feedAll` — in a model no key has an empty value, however it was loaded
* `World.holds_of_done` — a call that has set metadata reports a session that has the entries
* `World.metadata_difference_appended` — setting metadata appends the difference
-/

namespace SessionLedger

/-! ### Maps of metadata -/

theorem KeyMap.isEmpty_iff {α : Type} {m : KeyMap α} :
    m.isEmpty = true ↔ ∀ key, m.get? key = none := by
  constructor
  · intro h key
    rw [get?, List.isEmpty_iff.mp h]
    rfl
  · intro h
    rw [show m = ∅ from ext h]
    rfl

/-- No key has an empty value. -/
def Metadata.Live (metadata : Metadata) : Prop := ∀ key, metadata.get? key ≠ some []

/-- What setting metadata appends, given the entries that change something. -/
def SessionEvent.ofChanges (changed : Metadata) : List SessionEvent :=
  if changed.isEmpty then [] else [.metadataSet changed]

/-- Some of the entries are just those that change the metadata. -/
structure Metadata.Difference (metadata entries changed : Metadata) : Prop where
  /-- They do what all entries do. -/
  merge_eq : Facts.merge metadata changed = Facts.merge metadata entries
  /-- Each of them changes something, and none is left out that does. -/
  get?_eq_some_iff : ∀ key value, changed.get? key = some value ↔
    entries.get? key = some value ∧ Facts.setEntry metadata (key, value) ≠ metadata
  /-- There is nothing to append just if no entry changes anything. -/
  ofChanges_eq_nil_iff : SessionEvent.ofChanges changed = [] ↔ ∀ key value,
    entries.get? key = some value → Facts.setEntry metadata (key, value) = metadata

namespace Facts

variable {metadata entries : Metadata} {key : String} {value : List UInt8}

theorem live_merge (h : metadata.Live) (entries : Metadata) : (merge metadata entries).Live := by
  intro key
  rw [get?_merge]
  cases entries.get? key with
  | none => exact h key
  | some value => exact fun hempty => (live_eq_some_iff.mp hempty).2 rfl

/-- An entry changes nothing just if it leaves under its key what is there. -/
theorem setEntry_eq_self_iff :
    setEntry metadata (key, value) = metadata ↔ metadata.get? key = live value := by
  constructor
  · intro h
    rw [← h, get?_setEntry, if_pos rfl]
  · intro h
    refine KeyMap.ext fun other => ?_
    rw [get?_setEntry]
    split
    · next hkey =>
      obtain rfl : key = other := hkey
      exact h.symm
    · rfl

/-- The command's comparison finds the entries that change something. -/
theorem changesEntry_iff (h : metadata.Live) :
    changesEntry metadata key value = true ↔ setEntry metadata (key, value) ≠ metadata := by
  rw [Ne, setEntry_eq_self_iff, changesEntry, live]
  -- Only for a key that is there, and an entry that removes it, does the invariant matter.
  have hkey := h key
  cases hget : metadata.get? key with
  | none => by_cases hvalue : value = [] <;> simp [hvalue]
  | some old =>
    rw [hget] at hkey
    by_cases hvalue : value = []
    · simpa [hvalue] using hkey
    · simp [hvalue]

theorem changesEntry_eq_false_iff (h : metadata.Live) :
    changesEntry metadata key value = false ↔ metadata.get? key = live value := by
  rw [← Bool.not_eq_true, changesEntry_iff h, not_not, setEntry_eq_self_iff]

/-- The entries that change something do what all entries do. -/
theorem merge_filter_changesEntry (h : metadata.Live) (entries : Metadata) :
    merge metadata (entries.filter (changesEntry metadata)) = merge metadata entries := by
  refine KeyMap.ext fun key => ?_
  rw [get?_merge, get?_merge, KeyMap.get?_filter]
  cases entries.get? key with
  | none => rfl
  | some value =>
    cases hchanges : changesEntry metadata key value with
    | true => simp [Option.filter, hchanges]
    | false => simp [Option.filter, hchanges, (changesEntry_eq_false_iff h).mp hchanges]

/-- Entries do nothing just if none of them does anything. -/
theorem merge_eq_self_iff :
    merge metadata entries = metadata ↔
      ∀ key value, entries.get? key = some value → setEntry metadata (key, value) = metadata := by
  simp only [setEntry_eq_self_iff]
  constructor
  · intro h key value hvalue
    rw [← h, get?_merge, hvalue]
    rfl
  · intro h
    refine KeyMap.ext fun key => ?_
    rw [get?_merge]
    cases hvalue : entries.get? key with
    | none => rfl
    | some value => exact (h key value hvalue).symm

/-- The same entries once more do nothing. -/
theorem merge_merge_self (metadata entries : Metadata) :
    merge (merge metadata entries) entries = merge metadata entries := by
  rw [merge_eq_self_iff]
  intro key value hvalue
  rw [setEntry_eq_self_iff, get?_merge, hvalue]
  rfl

theorem isEmpty_filter_changesEntry_iff (h : metadata.Live) :
    (entries.filter (changesEntry metadata)).isEmpty = true ↔
      merge metadata entries = metadata := by
  rw [KeyMap.isEmpty_iff, merge_eq_self_iff]
  refine forall_congr' fun key => ?_
  rw [KeyMap.get?_filter, Option.filter_eq_none_iff]
  refine forall_congr' fun value => imp_congr_right fun _ => ?_
  rw [changesEntry_iff h, not_not]

/-- The entries that the command's comparison finds are the difference. -/
theorem difference_filter (h : metadata.Live) (entries : Metadata) :
    metadata.Difference entries (entries.filter (changesEntry metadata)) where
  merge_eq := merge_filter_changesEntry h entries
  get?_eq_some_iff key value := by
    rw [KeyMap.get?_filter, Option.filter_eq_some_iff, changesEntry_iff h]
  ofChanges_eq_nil_iff := by
    rw [← merge_eq_self_iff, ← isEmpty_filter_changesEntry_iff h, SessionEvent.ofChanges]
    split
    · next hempty => simp [hempty]
    · next hsome => simpa using hsome

/-- What is appended does to the facts what an event of all entries would do. -/
theorem foldlM_record_ofChanges {f : Facts} (h : f.metadata.Live) (now : Instant)
    (entries : Metadata) :
    (SessionEvent.ofChanges (entries.filter (changesEntry f.metadata))).foldlM (record · now) f =
      f.record now (.metadataSet entries) := by
  rw [SessionEvent.ofChanges]
  split
  · next hempty =>
    rw [record, (isEmpty_filter_changesEntry_iff h).mp hempty]
    rfl
  · rw [List.foldlM_cons, record, merge_filter_changesEntry h]
    rfl

/-! ### No empty values -/

theorem live_of_apply {f f' : Facts} {stored : Event} (h : f.metadata.Live)
    (happly : f.apply stored = .ok f') : f'.metadata.Live := by
  rw [eq_of_apply happly]
  cases stored.said? with
  | none => exact h
  | some e =>
    change (((e.entries? stored.createdAt).elim f.metadata (merge f.metadata)) : Metadata).Live
    cases e.entries? stored.createdAt with
    | none => exact h
    | some entries => exact live_merge h entries

end Facts

namespace Model

variable {m m' : Model} {events : List Event}

theorem live_of_fold (h : m.facts.metadata.Live) (hfold : m.fold events = .ok m') :
    m'.facts.metadata.Live := by
  refine fold_induction (P := fun x => x.facts.metadata.Live) h (fun e _ x x' hx hstep => ?_) hfold
  rcases step_eq_ok_iff.mp hstep with ⟨-, rfl⟩ | ⟨-, f, happly, rfl⟩
  · exact hx
  · exact Facts.live_of_apply hx happly

theorem live_reduce (h : m.facts.metadata.Live) : m.reduce.2.facts.metadata.Live := by
  simp only [reduce, takeBuffer]
  split
  · next m' hfold => exact live_of_fold (m := { m with buffer := [] }) h hfold
  · exact h

/-- In a model no key has an empty value, whatever it was given, whether that went well or not. -/
theorem live_feedAll (h : m.facts.metadata.Live) (calls : List Feed) :
    (m.feedAll calls).2.facts.metadata.Live := by
  induction calls generalizing m with
  | nil => exact h
  | cons call calls ih =>
    rw [feedAll_cons]
    refine ih ?_
    cases call with
    | deliver => exact h
    | reduce => exact live_reduce h
    | load events => exact live_reduce (m := m.deliver events) h

theorem live_new (sessionId : String) (resourceOwner : Option String) :
    (Model.new sessionId resourceOwner).facts.metadata.Live :=
  nofun

theorem live_of_ofLog {sessionId : String} {resourceOwner : Option String} {log : List Event}
    (h : ofLog sessionId resourceOwner log = .ok m) : m.facts.metadata.Live := by
  rw [ofLog_eq_fold] at h
  exact live_of_fold (live_new sessionId resourceOwner) h

/-! ### Setting metadata -/

/-- The session is active and has the entries already. -/
structure Holds (m : Model) (entries : Metadata) : Prop where
  active : m.facts.state = .active
  live : m.facts.metadata.Live
  merged : Facts.merge m.facts.metadata entries = m.facts.metadata

end Model

namespace Command

variable {m m' : Model} {now : Instant} {minted : Minted} {entries : Metadata} {d : Decision}

theorem decide_setMetadata (hactive : m.facts.state = .active)
    (hfresh : m.facts.isExpired now = false) (minted : Minted) (entries : Metadata) :
    (setMetadata entries).decide now minted m =
      .append (SessionEvent.ofChanges (entries.filter (changesEntry m.facts.metadata))) := by
  simp only [decide, whileActive, hactive, hfresh]
  rfl

/-- Setting metadata is refused, or appends what changes something in an active session. -/
theorem decide_setMetadata_cases (h : (setMetadata entries).decide now minted m = d) :
    (∃ refusal, d = .refuse refusal) ∨ m.facts.state = .active ∧
      d = .append (SessionEvent.ofChanges (entries.filter (changesEntry m.facts.metadata))) := by
  subst h
  rw [decide, whileActive]
  split
  · exact .inl ⟨_, rfl⟩
  · exact .inl ⟨_, rfl⟩
  · next hactive =>
    split
    · exact .inl ⟨_, rfl⟩
    · exact .inr ⟨hactive, rfl⟩

end Command

namespace Model

variable {m m' : Model} {entries : Metadata}

/-- Who sets metadata that the session has already appends nothing. -/
theorem Holds.decide_eq (h : m.Holds entries) {now : Instant}
    (hfresh : m.facts.isExpired now = false) (minted : Minted) :
    (Command.setMetadata entries).decide now minted m = .append [] := by
  have hempty := (Facts.isEmpty_filter_changesEntry_iff h.live).mpr h.merged
  rw [Command.decide_setMetadata h.active hfresh, SessionEvent.ofChanges, if_pos hempty]

/-- A model that has loaded the event of what changes something has all the entries. -/
theorem holds_of_step {stored : Event} (hlive : m.facts.metadata.Live)
    (hactive : m.facts.state = .active)
    (hcarries : stored.Carries (.metadataSet (entries.filter (changesEntry m.facts.metadata))))
    (hpast : m.position < stored.position) (hstep : m.step stored = .ok m') :
    m'.Holds entries := by
  have happly : m.facts.apply stored =
      .ok { m.facts with metadata := Facts.merge m.facts.metadata entries } := by
    refine Facts.apply_eq_ok_iff.mpr (.inr ⟨_, hcarries, ?_⟩)
    rw [Facts.record, Facts.merge_filter_changesEntry hlive]
  rw [step_of_lt hpast, happly] at hstep
  cases hstep
  exact ⟨hactive, Facts.live_merge hlive entries, Facts.merge_merge_self _ _⟩

/-- A model that has loaded what was appended for the entries has them. -/
theorem holds_of_loaded {appended : List Event} (hempty : m.buffer = [])
    (hlive : m.facts.metadata.Live) (hactive : m.facts.state = .active)
    (hcarries : List.Forall₂ Event.Carries appended
      (SessionEvent.ofChanges (entries.filter (changesEntry m.facts.metadata))))
    (hpast : ∀ e ∈ appended, m.position < e.position) (hload : m.loaded appended = .ok m') :
    m'.Holds entries := by
  rw [loaded_of_empty hempty] at hload
  rw [SessionEvent.ofChanges] at hcarries
  split at hcarries
  · next hnone =>
    cases hcarries
    cases hload
    exact ⟨hactive, hlive, (Facts.isEmpty_filter_changesEntry_iff hlive).mp hnone⟩
  · obtain ⟨stored, _, hstored, hrest, rfl⟩ := List.forall₂_cons_right_iff.mp hcarries
    cases hrest
    obtain ⟨next, hstep, hnext⟩ := fold_cons_eq_ok_iff.mp hload
    cases hnext
    exact holds_of_step hlive hactive hstored (hpast stored List.mem_cons_self) hstep

end Model

/-- A call that is to set metadata, and has loaded what it has appended, has a model with the
entries. -/
theorem Call.Decides.holds {c : Call} {m m' : Model} {entries : Metadata} {d : Decision}
    {asked : Option Consultation} {events : List SessionEvent} {appended log : List Event}
    (hd : c.Decides m d) (hcommand : c.command = .setMetadata entries)
    (hleads : d.LeadsTo asked events)
    (hload : Model.ofLog c.sessionId c.resourceOwner log = .ok m)
    (hcarries : List.Forall₂ Event.Carries appended events)
    (hpast : ∀ e ∈ appended, m.position < e.position) (hloaded : m.loaded appended = .ok m') :
    m'.Holds entries := by
  obtain ⟨now, minted, hdecide⟩ := hd
  rw [hcommand] at hdecide
  rcases Command.decide_setMetadata_cases hdecide with ⟨refusal, rfl⟩ | ⟨hactive, rfl⟩
  · cases hleads
  · obtain rfl : events = _ := hleads
    exact Model.holds_of_loaded (Model.buffer_of_ofLog hload) (Model.live_of_ofLog hload) hactive
      hcarries hpast hloaded

namespace World

variable {acts : List Act} {entries : Metadata}

/-- A call that has set metadata reports a session that has the entries. -/
theorem holds_of_done {number : Nat} {caller : Caller}
    (hcaller : (after acts).callers[number]? = some caller) {outcome : Outcome}
    (hcommand : caller.call.command = .setMetadata entries)
    (hdone : caller.call.phase = .done (.ok outcome)) : outcome.model.Holds entries := by
  refine done_induction (P := fun _ _ caller outcome =>
    caller.call.command = .setMetadata entries → outcome.model.Holds entries) (fun h _ => h)
    (fun past number caller next outcome d hsaw hd hleads hrequest _ hcommand => ?_)
    (fun past number moment caller m events appended store outcome hcaller hphase hpush hdone
      hcommand => ?_) hcaller hdone hcommand
  · obtain ⟨log, -, hload⟩ := hsaw
    rw [Call.command_eq hrequest] at hcommand
    exact hd.holds hcommand hleads hload .nil (by simp)
      (Model.loaded_of_empty (Model.buffer_of_ofLog hload) [])
  · obtain ⟨⟨log, hlog, hload⟩, ⟨d, hd, hleads⟩, -, hvalid⟩ :=
      (sound_of_caller past (List.mem_of_getElem? hcaller)).of_appending hphase
    rw [Call.command_eq (Call.request_afterAppend ..)] at hcommand
    have hpast := Store.increasing_appended ((sound_after past).push hpush) hpush hlog hload
    exact hd.holds hcommand hleads hload (Store.carries_of_push hvalid hpush) hpast.1
      (Call.loaded_of_afterAppend hdone).1

/-- **Setting metadata appends the difference.** Whatever a model was given, no key of its metadata
has an empty value. While its session is active and not expired, setting metadata appends an event
of just the entries that change something, or nothing if none does. That does to the session what
an event of all entries would do; and when the model has loaded what was appended, setting the same
metadata again appends nothing. So it is, after every run, with the model that a call reports when
it has set metadata. -/
theorem metadata_difference_appended :
    (∀ sessionId resourceOwner calls,
      let m := ((Model.new sessionId resourceOwner).feedAll calls).2
      m.facts.metadata.Live ∧
        ∀ now, m.facts.state = .active → m.facts.isExpired now = false → ∀ minted entries,
          ∃ changed, m.facts.metadata.Difference entries changed ∧
            (Command.setMetadata entries).decide now minted m =
              .append (SessionEvent.ofChanges changed) ∧
            (∀ instant, (SessionEvent.ofChanges changed).foldlM (Facts.record · instant) m.facts =
              m.facts.record instant (.metadataSet entries)) ∧
            ∀ appended m', m.buffer = [] →
              List.Forall₂ Event.Carries appended (SessionEvent.ofChanges changed) →
              (∀ e ∈ appended, m.position < e.position) → m.loaded appended = .ok m' →
              ∀ later minted, m'.facts.isExpired later = false →
                (Command.setMetadata entries).decide later minted m' = .append []) ∧
    ∀ acts, ∀ caller ∈ (after acts).callers, ∀ entries outcome,
      caller.call.command = .setMetadata entries → caller.call.phase = .done (.ok outcome) →
        ∀ later minted, outcome.model.facts.isExpired later = false →
          (Command.setMetadata entries).decide later minted outcome.model = .append [] := by
  constructor
  · intro sessionId resourceOwner calls m
    have hlive : m.facts.metadata.Live :=
      Model.live_feedAll (Model.live_new sessionId resourceOwner) calls
    refine ⟨hlive, fun now hactive hfresh minted entries => ⟨_,
      Facts.difference_filter hlive entries,
      Command.decide_setMetadata hactive hfresh minted entries,
      fun instant => Facts.foldlM_record_ofChanges hlive instant entries, ?_⟩⟩
    intro appended m' hempty hcarries hpast hload later minted hfresh
    exact (Model.holds_of_loaded hempty hlive hactive hcarries hpast hload).decide_eq hfresh minted
  · intro acts caller hcaller entries outcome hcommand hdone later minted hfresh
    obtain ⟨number, hcaller⟩ := List.getElem?_of_mem hcaller
    exact (holds_of_done hcaller hcommand hdone).decide_eq hfresh minted

/-- Metadata with one entry to be kept, one to be removed that is not there, and one that is new. -/
def mixedEntries : Metadata := .ofList [("kept", [1]), ("missing", []), ("new", [2])]

/-- A session is opened, and its metadata is set twice. -/
def metadataSetTwice : List Act := takeover.take 4 ++ [
  .start "s" none (.setMetadata (.ofList [("kept", [1])])) 0,
  .step 1 contentMoment, .step 1 contentMoment,
  .start "s" none (.setMetadata mixedEntries) 0,
  .step 2 contentMoment, .step 2 contentMoment]

theorem metadata_difference_appended_mixedEntries :
    (let m := ((Model.new "s" none).feedAll [.load ((after metadataSetTwice).store.log.take 2)]).2;
      m.facts.state = .active ∧ m.facts.isExpired .epoch = false ∧
        (Command.setMetadata mixedEntries).decide .epoch ⟨"", ""⟩ m =
          .append [.metadataSet (.ofList [("new", [2])])] ∧
        ∃ changed, m.facts.metadata.Difference mixedEntries changed ∧
          SessionEvent.ofChanges changed = [.metadataSet (.ofList [("new", [2])])]) ∧
      ∃ caller outcome, (after metadataSetTwice).callers[2]? = some caller ∧
        caller.call.command = .setMetadata mixedEntries ∧
        caller.call.phase = .done (.ok outcome) ∧ outcome.changed = true ∧
        outcome.model.facts.metadata.entries = [("kept", [1]), ("new", [2])] ∧
        outcome.model.facts.isExpired .epoch = false ∧
        (Command.setMetadata mixedEntries).decide .epoch ⟨"", ""⟩ outcome.model = .append [] := by
  obtain ⟨hmodel, hruns⟩ := metadata_difference_appended
  refine ⟨?_, ?_⟩
  · intro m
    have hdecide : (Command.setMetadata mixedEntries).decide .epoch ⟨"", ""⟩ m =
        .append [.metadataSet (.ofList [("new", [2])])] := by decide
    obtain ⟨-, hdifference⟩ := hmodel "s" none [.load ((after metadataSetTwice).store.log.take 2)]
    obtain ⟨changed, hchanged, hsame, -⟩ := hdifference .epoch rfl rfl ⟨"", ""⟩ mixedEntries
    rw [hdecide] at hsame
    exact ⟨rfl, rfl, hdecide, changed, hchanged, (Decision.append.inj hsame).symm⟩
  · suffices h : ∃ caller outcome, (after metadataSetTwice).callers[2]? = some caller ∧
        caller.call.command = .setMetadata mixedEntries ∧
        caller.call.phase = .done (.ok outcome) ∧ outcome.changed = true ∧
        outcome.model.facts.metadata.entries = [("kept", [1]), ("new", [2])] ∧
        outcome.model.facts.isExpired .epoch = false by
      obtain ⟨caller, outcome, hcaller, hcommand, hdone, hchanged, hentries, hfresh⟩ := h
      exact ⟨caller, outcome, hcaller, hcommand, hdone, hchanged, hentries, hfresh,
        hruns metadataSetTwice caller (List.mem_of_getElem? hcaller) mixedEntries outcome hcommand
          hdone .epoch ⟨"", ""⟩ hfresh⟩
    exact ⟨_, _, rfl, rfl, rfl, rfl, by decide, rfl⟩

end World

end SessionLedger
