import SessionLedger.Proofs.Places

/-!
# Unknown kinds do not show

Somebody else may append events of kinds that no session knows to the streams of sessions that have
begun. This module compares a run in which that happens with the run of the calls alone. The two
stay abreast: a call is in the same phase in both, with models that are alike, and ends with results
that are alike. Only places tell the runs apart.

## What is carried along

For the logs it is their gist, and for the index the owners and which streams have events; that a
stream without events stays so in both runs is what `Act.Joins` is needed for, because a call that
opens a session asks whether anything was written to its stream. A call that has loaded a model
carries two beginnings of the logs with the same gist, one that each run has loaded its model from.
So the rests have the same gist too, and that is all that the condition of an append asks for. The
owner on whose behalf somebody else appends needs no mention: a stranger's events are not admitted.

In one way the events of others do show: they use up positions. A stream can be so long with them
that a call is broken off which would have gone through without them. The comparison is for runs in
which this does not happen (`Act.Fits`).

## Main definitions

* `Caller.unplaced` — a call without places
* `Act.ofCall`, `Act.Joins` — the acts of calls, and appends to sessions that have begun
* `Act.Fits` — what a call is about to append finds room in its stream
* `Store.Resembles`, `Caller.Abreast`, `World.Resembles` — what the two runs have in common

## Main results

* `Store.Resembles.exists_push` — the two stores admit the same appends of calls, given room
* `World.Resembles.act` — an act of a call keeps the runs abreast
* `World.Resembles.act_foreign` — so does an append of somebody else to the one run only
* `World.unknown_kinds_invisible` — calls end alike in both runs, and sessions are loaded alike
-/

namespace SessionLedger

/-! ### Calls without places -/

def Outcome.unplaced (o : Outcome) : Outcome := { o with model := o.model.unplaced }

/-- How a call ended, without places. -/
def Completion.unplaced : Completion Outcome → Completion Outcome
  | ok o => ok o.unplaced
  | error e => error e.unplaced
  | overflow => overflow

def Phase.unplaced : Phase → Phase
  | loading => loading
  | claiming m events => claiming m.unplaced events
  | verifying m check => verifying m.unplaced check
  | appending m events => appending m.unplaced events
  | done result => done result.unplaced

def Call.unplaced (c : Call) : Call := { c with phase := c.phase.unplaced }

/-- The call with no positions in its model, or in its result. -/
def Caller.unplaced (c : Caller) : Caller := { c with call := c.call.unplaced }

/-! ### Stores -/

/-- Nothing but places, and events of unknown kinds in streams that have others, tells the stores
apart. -/
structure Store.Resembles (s s' : Store) : Prop where
  gist_eq : gist s.log = gist s'.log
  owner : ∀ key, (s.head? key).map Head.owner = (s'.head? key).map Head.owner
  vacant_iff : ∀ key, s.stream key = [] ↔ s'.stream key = []

namespace Store

variable {s s' t t' : Store} {now : Instant} {who : Identity} {condition condition' : Condition}
  {pending : List PendingEvent} {appended appended' : List Event}

theorem map_unplaced_place {key : StreamKey} {owner : String} {position position' : UInt64}
    (h : place key owner now position pending = some appended)
    (h' : place key owner now position' pending = some appended') :
    appended.map Event.unplaced = appended'.map Event.unplaced := by
  induction pending generalizing position position' appended appended' with
  | nil =>
    cases h
    cases h'
    rfl
  | cons p pending ih =>
    obtain ⟨-, rest, hrest, rfl⟩ := place_cons_eq_some_iff.mp h
    obtain ⟨-, rest', hrest', rfl⟩ := place_cons_eq_some_iff.mp h'
    exact congrArg (List.cons _) (ih hrest hrest')

/-- What there is room for in a stream, there is room for in one that is no longer. -/
theorem HasRoom.of_length_le {key : StreamKey} {n : Nat} (hroom : s'.HasRoom key n)
    (hs : s.Sound) (hs' : s'.Sound) (hle : (s.stream key).length ≤ (s'.stream key).length) :
    s.HasRoom key n := by
  rw [HasRoom, hs'.latest] at hroom
  rw [HasRoom, hs.latest]
  omega

theorem Sound.latest_pos_iff (hs : s.Sound) (key : StreamKey) :
    0 < s.latest key ↔ s.stream key ≠ [] := by
  rw [UInt64.lt_iff_toNat_lt, hs.latest, ← List.length_pos_iff]
  rfl

namespace Resembles

theorem symm (h : s.Resembles s') : s'.Resembles s where
  gist_eq := h.gist_eq.symm
  owner key := (h.owner key).symm
  vacant_iff key := (h.vacant_iff key).symm

theorem owner_headFor (h : s.Resembles s') (who : Identity) :
    (s.headFor who).owner = (s'.headFor who).owner := by
  have howner := h.owner who.key
  rw [headFor, headFor]
  cases hhead : s.head? who.key <;> cases hhead' : s'.head? who.key <;>
    simp_all

theorem latest_pos_iff (h : s.Resembles s') (hs : s.Sound) (hs' : s'.Sound) (key : StreamKey) :
    0 < s.latest key ↔ 0 < s'.latest key := by
  rw [hs.latest_pos_iff, hs'.latest_pos_iff, Ne, Ne, h.vacant_iff]

/-- A stream belongs to somebody else in both stores, or in neither. -/
theorem belongsToOther_eq (h : s.Resembles s') (hs : s.Sound) (hs' : s'.Sound) (who : Identity) :
    belongsToOther (s.headFor who) who = belongsToOther (s'.headFor who) who := by
  have hpos : decide (0 < (s.headFor who).position) = decide (0 < (s'.headFor who).position) := by
    rw [position_headFor, position_headFor, decide_eq_decide]
    exact h.latest_pos_iff hs hs' who.key
  rw [belongsToOther, belongsToOther, hpos, h.owner_headFor who]

/-- The same append to both stores puts in events that are alike. -/
theorem push (h : s.Resembles s')
    (hpush : s.push now who condition pending = .ok (appended, t))
    (hpush' : s'.push now who condition' pending = .ok (appended', t')) :
    appended.map Event.unplaced = appended'.map Event.unplaced ∧ t.Resembles t' := by
  have halike : appended.map Event.unplaced = appended'.map Event.unplaced := by
    obtain ⟨-, -, hplace, -⟩ := push_eq_ok_iff.mp hpush
    obtain ⟨-, -, hplace', -⟩ := push_eq_ok_iff.mp hpush'
    rw [h.owner_headFor] at hplace
    exact map_unplaced_place hplace hplace'
  refine ⟨halike, ?_, fun key => ?_, fun key => ?_⟩
  · rw [(push_log hpush).1, (push_log hpush').1, gist_append, gist_append, h.gist_eq,
      gist_congr halike]
  · rw [head?_push hpush, head?_push hpush']
    split
    · exact congrArg some (h.owner_headFor who)
    · exact h.owner key
  · have hnone : appended = [] ↔ appended' = [] := by
      rw [← List.map_eq_nil_iff (f := Event.unplaced), halike, List.map_eq_nil_iff]
    rw [stream_push hpush, stream_push hpush']
    split
    · simp [h.vacant_iff, hnone]
    · simp [h.vacant_iff]

/-- Events of unknown kinds may come into one of the stores, if their stream has events. -/
theorem push_unknown (h : s.Resembles s') (hs' : s'.Sound)
    (hpush : s'.push now who condition pending = .ok (appended, t'))
    (hunknown : ∀ e ∈ appended, SessionEvent.Kind.ofName? e.kind = none)
    (hbegun : s'.stream who.key ≠ []) : s.Resembles t' where
  gist_eq := by
    rw [(push_log hpush).1, gist_append, gist_of_unknown hunknown, List.append_nil]
    exact h.gist_eq
  owner key := by
    rw [h.owner, head?_push hpush]
    split
    · next hkey =>
      obtain ⟨e, he⟩ := List.exists_mem_of_ne_nil _ hbegun
      obtain ⟨head, hhead⟩ := hs'.exists_head he
      simp [hkey, headFor, hhead]
    · rfl
  vacant_iff key := by
    rw [h.vacant_iff, stream_push hpush]
    split
    · next hkey => simp [hkey, hbegun]
    · simp

end Resembles

end Store

/-! ### Calls abreast -/

/-- Models that are alike, each loaded by the call from a beginning of a log. The beginnings have
the same gist. -/
structure Call.Twins (c : Call) (log log' : List Event) (m m' : Model) : Prop where
  alike : m.unplaced = m'.unplaced
  loaded : ∃ past past', past <+: log ∧ past' <+: log' ∧ gist past = gist past' ∧
    Model.ofLog c.sessionId c.resourceOwner past = .ok m ∧
    Model.ofLog c.sessionId c.resourceOwner past' = .ok m'

/-- The phases of a call in two runs. -/
inductive Phase.Abreast (twins : Model → Model → Prop) : Phase → Phase → Prop
  | loading : Abreast twins .loading .loading
  | claiming {m m' : Model} {events : List SessionEvent} (h : twins m m') :
    Abreast twins (.claiming m events) (.claiming m' events)
  | verifying {m m' : Model} {check : Check} (h : twins m m') :
    Abreast twins (.verifying m check) (.verifying m' check)
  | appending {m m' : Model} {events : List SessionEvent} (h : twins m m') :
    Abreast twins (.appending m events) (.appending m' events)
  | done {r r' : Completion Outcome}
    (h : r.unplaced = r'.unplaced) : Abreast twins (.done r) (.done r')

/-- One call in two runs. -/
inductive Caller.Abreast (log log' : List Event) : Caller → Caller → Prop
  | mk (c : Call) (asked : Option Consultation) {phase phase' : Phase}
    (h : phase.Abreast (c.Twins log log') phase') :
    Abreast log log' ⟨{ c with phase := phase }, asked⟩ ⟨{ c with phase := phase' }, asked⟩

theorem Call.Twins.mono {c : Call} {log log' more more' : List Event} {m m' : Model}
    (h : c.Twins log log' m m') (hlog : log <+: more) (hlog' : log' <+: more') :
    c.Twins more more' m m' := by
  obtain ⟨past, past', hpast, hpast', hrest⟩ := h.loaded
  exact ⟨h.alike, past, past', hpast.trans hlog, hpast'.trans hlog', hrest⟩

theorem Call.Twins.symm {c : Call} {log log' : List Event} {m m' : Model}
    (h : c.Twins log log' m m') : c.Twins log' log m' m := by
  obtain ⟨past, past', hpast, hpast', hgist, hload, hload'⟩ := h.loaded
  exact ⟨h.alike.symm, past', past, hpast', hpast, hgist.symm, hload', hload⟩

theorem Phase.Abreast.unplaced_eq {c : Call} {log log' : List Event} {phase phase' : Phase}
    (h : phase.Abreast (c.Twins log log') phase') : phase.unplaced = phase'.unplaced := by
  cases h with
  | loading => rfl
  | claiming h | verifying h | appending h => simp [unplaced, h.alike]
  | done h => simp [unplaced, h]

/-! ### Appends of calls -/

namespace Store

variable {s s' t : Store} {c : Call} {m m' : Model} {now : Instant} {pending : List PendingEvent}
  {appended : List Event}

/-- **The two stores admit the same appends of calls**, where there is room. What else stands in the
way of an append is in the gist of what came after the model. -/
theorem Resembles.exists_push (h : s.Resembles s') (hs : s.Sound) (hs' : s'.Sound)
    (htwins : c.Twins s.log s'.log m m')
    (hpush : s.push now m.identity (.of m) pending = .ok (appended, t))
    (hroom : s'.HasRoom m.identity.key pending.length) :
    ∃ appended' t', s'.push now m'.identity (.of m') pending = .ok (appended', t') := by
  obtain ⟨past, past', ⟨more, hlog⟩, ⟨more', hlog'⟩, hgist, hload, hload'⟩ := htwins.loaded
  obtain ⟨position, rfl⟩ := Model.exists_position htwins.alike
  obtain ⟨hother, hcheck, -, -⟩ := push_eq_ok_iff.mp hpush
  have hmore : gist more = gist more' := by
    have hwhole := h.gist_eq
    rw [← hlog, ← hlog', gist_append, gist_append, hgist] at hwhole
    exact List.append_cancel_left hwhole
  -- Both conditions ask for the same: that the gist of the rest has nothing for the model.
  have hcheck' := (check_iff_gist hs hlog hload).mp hcheck
  rw [hmore] at hcheck'
  rw [h.belongsToOther_eq hs hs'] at hother
  exact exists_push hother ((check_iff_gist hs' hlog' hload').mpr hcheck') hroom now

/-- What a call appends lies past its model. -/
theorem increasing_appended {condition : Condition} (ht : t.Sound)
    (hpush : s.push now m.identity condition pending = .ok (appended, t))
    {sessionId : String} {resourceOwner : Option String} {past : List Event}
    (hpast : past <+: s.log) (hload : Model.ofLog sessionId resourceOwner past = .ok m) :
    (∀ e ∈ appended, m.position < e.position) ∧
      appended.Pairwise fun e e' => e.position < e'.position := by
  have hstream : t.stream m.identity.key = s.stream m.identity.key ++ appended := by
    rw [stream_push hpush, if_pos rfl]
  have hinc := ht.increasing m.identity.key
  rw [hstream, List.pairwise_append] at hinc
  refine ⟨fun e he => ?_, hinc.2.1⟩
  rw [Model.ofLog_eq_fold] at hload
  rcases Model.position_of_fold hload with hzero | ⟨seen, hseen, hposition⟩
  · have hmem : e ∈ t.stream m.identity.key := hstream ▸ List.mem_append_right _ he
    rw [hzero]
    exact ht.position_pos hmem
  · obtain ⟨hmem, hsel⟩ := List.mem_filter.mp hseen
    rw [hposition]
    refine hinc.2.2 seen (mem_stream.mpr ⟨hpast.subset hmem, ?_⟩) e he
    rw [Model.key_of_fold hload]
    exact (Model.selects_iff.mp hsel).1

/-- What a call appends to the two stores, it loads alike. -/
theorem Resembles.loaded_alike {s' t' : Store} {m' : Model} {appended' : List Event}
    {condition condition' : Condition} (htwins : c.Twins s.log s'.log m m')
    (hpush : s.push now m.identity condition pending = .ok (appended, t))
    (hpush' : s'.push now m'.identity condition' pending = .ok (appended', t'))
    (halike : appended.map Event.unplaced = appended'.map Event.unplaced)
    (ht : t.Sound) (ht' : t'.Sound) :
    withoutPlaces Model.unplaced (m.loaded appended) =
      withoutPlaces Model.unplaced (m'.loaded appended') := by
  obtain ⟨past, past', hpast, hpast', -, hload, hload'⟩ := htwins.loaded
  have hinc := increasing_appended ht hpush hpast hload
  have hinc' := increasing_appended ht' hpush' hpast' hload'
  rw [Model.loaded_of_empty (Model.buffer_of_ofLog hload),
    Model.loaded_of_empty (Model.buffer_of_ofLog hload')]
  exact Model.fold_alike htwins.alike halike hinc.1 hinc.2 hinc'.1 hinc'.2

end Store

/-! ### One step of a call -/

namespace Caller.Abreast

variable {log log' : List Event} {s s' : Store} {c : Call} {m m' : Model}

theorem finish (c : Call) (asked : Option Consultation) {r r' : Completion Outcome}
    (h : r.unplaced = r'.unplaced) :
    Caller.Abreast log log' ⟨c.finish r, asked⟩ ⟨c.finish r', asked⟩ :=
  .mk c asked (.done h)

theorem settle (h : c.Twins log log' m m') (events : List SessionEvent)
    (asked : Option Consultation) :
    Caller.Abreast log log' ⟨c.settle m events, asked⟩ ⟨c.settle m' events, asked⟩ := by
  rw [Call.settle, Call.settle]
  split
  · exact finish c asked (by simp [Completion.unplaced, Outcome.unplaced, h.alike])
  · split
    · exact .mk c asked (.appending h)
    · exact finish c asked rfl

theorem follow (h : c.Twins log log' m m') (d : Decision) (asked : Option Consultation) :
    Caller.Abreast log log' ⟨c.follow m d, asked⟩ ⟨c.follow m' d, asked⟩ := by
  cases d with
  | refuse refusal => exact finish c asked rfl
  | append events => exact settle h events asked
  | ifVacant events => exact .mk c asked (.claiming h)
  | consult check => exact .mk c asked (.verifying h)

theorem afterLoad (h : s.Resembles s') (hs : s.Sound) (hs' : s'.Sound) (c : Call)
    (asked : Option Consultation) (now : Instant) (minted : Minted) :
    Caller.Abreast s.log s'.log ⟨c.afterLoad now minted (.ok (s.filter c.fresh.query)), asked⟩
      ⟨c.afterLoad now minted (.ok (s'.filter c.fresh.query)), asked⟩ := by
  have halike := Store.load_alike hs hs' h.gist_eq c.sessionId c.resourceOwner
  have hafter (s : Store) : (Except.ok (s.filter c.fresh.query)).bind c.fresh.loaded =
      s.load c.sessionId c.resourceOwner := rfl
  simp only [Call.afterLoad, hafter]
  obtain ⟨m, m', hload, hload', hm⟩ | ⟨e, e', hload, hload', he⟩ := alike_cases halike
  · have htwins : c.Twins s.log s'.log m m' :=
      ⟨hm, s.log, s'.log, List.prefix_rfl, List.prefix_rfl, h.gist_eq, hload, hload'⟩
    simp only [hload, hload', c.command.decide_alike now minted hm]
    exact follow htwins _ asked
  · simp only [hload, hload']
    exact finish c asked (congrArg Completion.error he)

theorem afterClaim (h : s.Resembles s') (hs : s.Sound) (hs' : s'.Sound)
    (htwins : c.Twins s.log s'.log m m') (events : List SessionEvent)
    (asked : Option Consultation) :
    Caller.Abreast s.log s'.log ⟨c.afterClaim m events (.ok (s.latest m.identity.key)), asked⟩
      ⟨c.afterClaim m' events (.ok (s'.latest m'.identity.key)), asked⟩ := by
  obtain ⟨position, rfl⟩ := Model.exists_position htwins.alike
  simp only [Call.afterClaim, h.latest_pos_iff hs hs']
  split
  · exact finish c asked rfl
  · exact settle htwins events asked

theorem afterVerdict (htwins : c.Twins log log' m m') (check : Check)
    (answer : Except Error Verdict) (asked : Option Consultation) :
    Caller.Abreast log log' ⟨c.afterVerdict m check answer, asked⟩
      ⟨c.afterVerdict m' check answer, asked⟩ := by
  cases answer with
  | error e => exact finish c asked rfl
  | ok verdict =>
    simp only [Call.afterVerdict]
    cases check.conclude verdict with
    | error refusal => exact finish c asked rfl
    | ok events => exact settle htwins events asked

theorem afterAppend (c : Call) (asked : Option Consultation) {appended appended' : List Event}
    (h : withoutPlaces Model.unplaced (m.loaded appended) =
      withoutPlaces Model.unplaced (m'.loaded appended')) :
    Caller.Abreast log log' ⟨c.afterAppend m (.ok appended), asked⟩
      ⟨c.afterAppend m' (.ok appended'), asked⟩ := by
  simp only [Call.afterAppend]
  obtain ⟨model, model', hload, hload', hmodel⟩ | ⟨e, e', hload, hload', he⟩ := alike_cases h
  · simp only [hload, hload']
    exact finish c asked (by simp [Completion.unplaced, Outcome.unplaced, hmodel])
  · simp only [hload, hload']
    exact finish c asked (congrArg Completion.error he)

theorem afterConflict (c : Call) (asked : Option Consultation) (m m' : Model)
    (expected expected' actual actual' : UInt64) :
    Caller.Abreast log log' ⟨c.afterAppend m (.error (.conflict expected actual)), asked⟩
      ⟨c.afterAppend m' (.error (.conflict expected' actual')), asked⟩ := by
  have hagain : c.triesAgain (.conflict expected' actual') =
      c.triesAgain (.conflict expected actual) := rfl
  simp only [Call.afterAppend, hagain]
  split
  · rcases c.again_cases with ⟨-, hagain⟩ | ⟨-, hagain⟩
    · exact hagain ▸ finish c asked rfl
    · exact hagain ▸ .mk { c with attempt := c.attempt + 1 } asked .loading
  · exact finish c asked rfl

theorem unplaced_eq {caller caller' : Caller} (h : caller.Abreast log log' caller') :
    caller.unplaced = caller'.unplaced := by
  obtain ⟨c, asked, h⟩ := h
  simp [unplaced, Call.unplaced, h.unplaced_eq]

theorem mono {caller caller' : Caller} (h : caller.Abreast log log' caller')
    {more more' : List Event} (hlog : log <+: more) (hlog' : log' <+: more') :
    caller.Abreast more more' caller' := by
  obtain ⟨c, asked, h⟩ := h
  refine .mk c asked ?_
  cases h with
  | loading => exact .loading
  | claiming h => exact .claiming (h.mono hlog hlog')
  | verifying h => exact .verifying (h.mono hlog hlog')
  | appending h => exact .appending (h.mono hlog hlog')
  | done h => exact .done h

end Caller.Abreast

/-! ### Worlds -/

/-- The act is one of a call. -/
def Act.ofCall : Act → Bool
  | start .. | step .. => true
  | foreign .. => false

/-- Somebody else who appends does so to a stream in which a session knows something. -/
def Act.Joins (w : World) : Act → Prop
  | foreign _ who _ _ => ∃ e ∈ w.store.stream who.key, e.isKnown = true
  | start .. | step .. => True

instance Act.decidableJoins (w : World) : (a : Act) → Decidable (a.Joins w)
  | .foreign _ who _ _ =>
    inferInstanceAs (Decidable (∃ e ∈ w.store.stream who.key, e.isKnown = true))
  | .start .. | .step .. => inferInstanceAs (Decidable True)

/-- What the call is about to append, if anything, finds room in its stream. -/
def Phase.Fits (s : Store) : Phase → Prop
  | appending m events => s.HasRoom m.identity.key events.length
  | loading | claiming .. | verifying .. | done _ => True

instance Phase.decidableFits (s : Store) : (phase : Phase) → Decidable (phase.Fits s)
  | .appending m events => inferInstanceAs (Decidable (s.HasRoom m.identity.key events.length))
  | .loading | .claiming .. | .verifying .. | .done _ => inferInstanceAs (Decidable True)

/-- A call that appends finds room in its stream. -/
def Act.Fits (w : World) : Act → Prop
  | step number _ => ∀ caller ∈ w.callers[number]?, caller.call.phase.Fits w.store
  | start .. | foreign .. => True

instance Act.decidableFits (w : World) : (a : Act) → Decidable (a.Fits w)
  | .step number _ =>
    inferInstanceAs (Decidable (∀ caller ∈ w.callers[number]?, caller.call.phase.Fits w.store))
  | .start .. | .foreign .. => inferInstanceAs (Decidable True)

namespace World

variable {w w' : World} {t t' : Store} {caller caller' : Caller} {number : Nat}

/-- The run of the first world is abreast of the run of the second, which may have more events. -/
structure Resembles (w w' : World) : Prop where
  store : w.store.Resembles w'.store
  length_le : ∀ key, (w.store.stream key).length ≤ (w'.store.stream key).length
  length_eq : w.callers.length = w'.callers.length
  abreast : ∀ (number : Nat) (caller caller' : Caller), w.callers[number]? = some caller →
    w'.callers[number]? = some caller' → caller.Abreast w.store.log w'.store.log caller'

namespace Resembles

/-- One more call that stays abreast. -/
theorem put (h : w.Resembles w') (hcaller : caller.Abreast w.store.log w'.store.log caller')
    (number : Nat) : (w.put number caller).Resembles (w'.put number caller') where
  store := h.store
  length_le := h.length_le
  length_eq := by simp [World.put, h.length_eq]
  abreast n c c' hc hc' := by
    rw [World.put, List.getElem?_set] at hc hc'
    by_cases hn : number = n
    · subst hn
      by_cases hlt : number < w.callers.length
      · have hlt' : number < w'.callers.length := h.length_eq ▸ hlt
        simp only [hlt, hlt', if_true, Option.some.injEq] at hc hc'
        exact hc ▸ hc' ▸ hcaller
      · simp [hlt] at hc
    · rw [if_neg hn] at hc hc'
      exact h.abreast n c c' hc hc'

/-- The logs of the two worlds may grow. -/
theorem grow (h : w.Resembles w') {v v' : World} (hstore : v.store.Resembles v'.store)
    (hlength : ∀ key, (v.store.stream key).length ≤ (v'.store.stream key).length)
    (hlog : w.store.log <+: v.store.log)
    (hlog' : w'.store.log <+: v'.store.log) (hcallers : v.callers = w.callers)
    (hcallers' : v'.callers = w'.callers) : v.Resembles v' where
  store := hstore
  length_le := hlength
  length_eq := by rw [hcallers, hcallers', h.length_eq]
  abreast n c c' hc hc' := by
    rw [hcallers] at hc
    rw [hcallers'] at hc'
    exact (h.abreast n c c' hc hc').mono hlog hlog'

/-- A call whose append both stores admit stays abreast. -/
theorem append (h : w.Resembles w') (hs : w.store.Sound) (hs' : w'.store.Sound) {c : Call}
    {m m' : Model} {now : Instant} {condition condition' : Condition}
    {pending : List PendingEvent} {appended appended' : List Event}
    (htwins : c.Twins w.store.log w'.store.log m m')
    (hpush : w.store.push now m.identity condition pending = .ok (appended, t))
    (hpush' : w'.store.push now m'.identity condition' pending = .ok (appended', t'))
    (number : Nat) (asked : Option Consultation) (origin : Option Origin) :
    ((w.extend t appended origin).put number ⟨c.afterAppend m (.ok appended), asked⟩).Resembles
      ((w'.extend t' appended' origin).put number
        ⟨c.afterAppend m' (.ok appended'), asked⟩) := by
  have hidentity : m'.identity = m.identity := by
    obtain ⟨position, rfl⟩ := Model.exists_position htwins.alike
    rfl
  obtain ⟨halike, ht⟩ := h.store.push hpush (hidentity ▸ hpush')
  obtain ⟨hlog, hlength, -⟩ := Store.push_log hpush
  obtain ⟨hlog', hlength', -⟩ := Store.push_log hpush'
  have hgrown : ∀ key, (t.stream key).length ≤ (t'.stream key).length := fun key => by
    rw [Store.stream_push hpush, Store.stream_push hpush', hidentity, List.length_append,
      List.length_append]
    refine Nat.add_le_add (h.length_le key) (Nat.le_of_eq ?_)
    split
    · rw [hlength, hlength']
    · rfl
  have hloaded := Store.Resembles.loaded_alike htwins hpush hpush' halike (hs.push hpush)
    (hs'.push hpush')
  have hnext : (w.extend t appended origin).Resembles (w'.extend t' appended' origin) :=
    h.grow ht hgrown ⟨_, hlog.symm⟩ ⟨_, hlog'.symm⟩ rfl rfl
  exact hnext.put (.afterAppend c asked hloaded) number

/-- A call that takes the same step in both worlds stays abreast. -/
theorem advance (h : w.Resembles w') (hs : w.store.Sound) (hs' : w'.store.Sound)
    (hcaller : caller.Abreast w.store.log w'.store.log caller') (number : Nat) (moment : Moment)
    (hfits : caller'.call.phase.Fits w'.store) :
    (w.advance number caller moment).Resembles (w'.advance number caller' moment) := by
  obtain ⟨c, asked, hphase⟩ := hcaller
  cases hphase with
  | loading =>
    rw [advance_eq, advance_eq]
    exact h.put (.afterLoad h.store hs hs' _ asked _ _) number
  | claiming htwins =>
    rw [advance_eq, advance_eq]
    exact h.put (.afterClaim h.store hs hs' htwins _ asked) number
  | verifying htwins =>
    rw [advance_eq, advance_eq]
    exact h.put (.afterVerdict htwins _ _ _) number
  | @appending m m' events htwins =>
    rw [advance_eq, advance_eq]
    simp only
    have hidentity : m'.identity = m.identity := by
      obtain ⟨position, rfl⟩ := Model.exists_position htwins.alike
      rfl
    -- There is room in the longer stream, so in both.
    have hroom' : w'.store.HasRoom m'.identity.key (events.map SessionEvent.toPending).length := by
      rw [List.length_map]
      exact hfits
    have hroom : w.store.HasRoom m.identity.key (events.map SessionEvent.toPending).length :=
      Store.HasRoom.of_length_le (hidentity ▸ hroom') hs hs' (h.length_le _)
    cases hpush : w.store.push moment.now m.identity (.of m)
        (events.map SessionEvent.toPending) with
    | overflow => exact absurd hroom (Store.push_eq_overflow_iff.mp hpush).2.2
    | error e =>
      cases hpush' : w'.store.push moment.now m'.identity (.of m')
          (events.map SessionEvent.toPending) with
      | overflow => exact absurd hroom' (Store.push_eq_overflow_iff.mp hpush').2.2
      | error e' =>
        obtain ⟨actual, rfl⟩ := Store.push_error hpush
        obtain ⟨actual', rfl⟩ := Store.push_error hpush'
        exact h.put (.afterConflict c asked m m' _ _ actual actual') number
      | ok result =>
        -- What the second store admits the first admits too.
        obtain ⟨appended, t, hadmitted⟩ :=
          h.store.symm.exists_push hs' hs htwins.symm hpush' (hidentity ▸ hroom)
        rw [hpush] at hadmitted
        cases hadmitted
    | ok result =>
      obtain ⟨appended, t⟩ := result
      obtain ⟨appended', t', hpush'⟩ := h.store.exists_push hs hs' htwins hpush (hidentity ▸ hroom')
      rw [hpush']
      exact h.append hs hs' htwins hpush hpush' number asked _
  | done hresult =>
    rw [advance_eq, advance_eq]
    exact h.put (.mk c asked (.done hresult)) number

/-- **An act of a call keeps the runs abreast.** -/
theorem act (h : w.Resembles w') (hs : w.store.Sound) (hs' : w'.store.Sound) {a : Act}
    (ha : a.ofCall = true) (hfits : a.Fits w') :
    (w.act a).Resembles (w'.act a) := by
  cases a with
  | foreign now who condition batch => cases ha
  | start sessionId resourceOwner command maxRetries =>
    refine ⟨h.store, h.length_le, by simp [World.act, h.length_eq], fun n c c' hc hc' => ?_⟩
    simp only [World.act, List.getElem?_append, h.length_eq] at hc hc'
    split at hc
    · next hlt =>
      rw [if_pos hlt] at hc'
      exact h.abreast n c c' hc hc'
    · next hlt =>
      rw [if_neg hlt] at hc'
      obtain rfl := Option.some.inj (hc.symm.trans hc')
      rw [List.mem_singleton.mp (List.mem_of_getElem? hc)]
      exact .mk { sessionId, resourceOwner, command, maxRetries } none .loading
  | step number moment =>
    cases hcaller : w.callers[number]? with
    | none =>
      have hcaller' : w'.callers[number]? = none := by
        rw [List.getElem?_eq_none_iff, ← h.length_eq]
        exact List.getElem?_eq_none_iff.mp hcaller
      simp only [World.act, hcaller, hcaller']
      exact h
    | some caller =>
      obtain ⟨caller', hcaller'⟩ : ∃ caller', w'.callers[number]? = some caller' := by
        have hlt := (List.getElem?_eq_some_iff.mp hcaller).1
        rw [h.length_eq] at hlt
        exact ⟨_, List.getElem?_eq_getElem hlt⟩
      simp only [World.act, hcaller, hcaller']
      exact h.advance hs hs' (h.abreast number caller caller' hcaller hcaller') number moment
        (hfits caller' hcaller')

/-- **An append of somebody else to the second world only keeps the runs abreast**, if it goes to a
stream in which a session knows something. -/
theorem act_foreign (h : w.Resembles w') (hs' : w'.store.Sound) {a : Act} (ha : a.ofCall = false)
    (hjoins : a.Joins w') : w.Resembles (w'.act a) := by
  cases a with
  | start | step => cases ha
  | foreign now who condition batch =>
    simp only [World.act]
    split
    · next appended t' hpush =>
      obtain ⟨e, he, -⟩ := hjoins
      have hlog := (Store.push_log hpush).1
      have hstore := h.store.push_unknown hs' hpush (ForeignBatch.unknown_of_push hpush)
        (List.ne_nil_of_mem he)
      have hlength : ∀ key, (w.store.stream key).length ≤ (t'.stream key).length := fun key => by
        rw [Store.stream_push hpush, List.length_append]
        exact Nat.le_add_right_of_le (h.length_le key)
      exact h.grow hstore hlength List.prefix_rfl ⟨_, hlog.symm⟩ rfl rfl
    · exact h
    · exact h

/-- Calls that are abreast are the same but for places. -/
theorem map_unplaced_callers (h : w.Resembles w') :
    w.callers.map Caller.unplaced = w'.callers.map Caller.unplaced := by
  refine List.ext_getElem (by simp [h.length_eq]) fun n hn hn' => ?_
  rw [List.getElem_map, List.getElem_map]
  exact (h.abreast n _ _ (List.getElem?_eq_getElem _) (List.getElem?_eq_getElem _)).unplaced_eq

end Resembles

/-! ### Runs -/

theorem resembles_nil : Resembles {} {} where
  store := ⟨rfl, fun _ => rfl, fun _ => Iff.rfl⟩
  length_le _ := Nat.le_refl _
  length_eq := rfl
  abreast number caller caller' hcaller _ := by simp at hcaller

/-- What holds of every act of a run in the world that it meets, holds of every act before the last,
and of the last. -/
theorem forall_of_concat (P : World → Act → Prop) {acts : List Act} {a : Act}
    (h : ∀ n (hn : n < (acts ++ [a]).length),
      P (after ((acts ++ [a]).take n)) (acts ++ [a])[n]) :
    (∀ n (hn : n < acts.length), P (after (acts.take n)) acts[n]) ∧ P (after acts) a := by
  refine ⟨fun n hn => ?_, ?_⟩
  · have hnext := h n (by rw [List.length_append]; omega)
    rwa [List.getElem_append_left hn, List.take_append_of_le_length hn.le] at hnext
  · have hlast := h acts.length (by simp)
    rwa [List.getElem_concat_length rfl, List.take_left' rfl] at hlast

/-- The run of the calls alone is abreast of the run in which others append too. -/
theorem resembles_after {acts : List Act}
    (hjoins : ∀ n (hn : n < acts.length), acts[n].Joins (after (acts.take n)))
    (hfits : ∀ n (hn : n < acts.length), acts[n].Fits (after (acts.take n))) :
    (after (acts.filter Act.ofCall)).Resembles (after acts) := by
  induction acts using List.reverseRecOn with
  | nil => exact resembles_nil
  | append_singleton acts a ih =>
    obtain ⟨hjoins, hlastJoins⟩ := forall_of_concat (fun w a => a.Joins w) hjoins
    obtain ⟨hfits, hlastFits⟩ := forall_of_concat (fun w a => a.Fits w) hfits
    have h := ih hjoins hfits
    rw [after_concat, List.filter_append]
    cases ha : a.ofCall with
    | true =>
      rw [List.filter_cons_of_pos ha, List.filter_nil, after_concat]
      exact h.act (sound_after _) (sound_after _) ha hlastFits
    | false =>
      rw [List.filter_cons_of_neg (by simp [ha]), List.filter_nil, List.append_nil]
      exact h.act_foreign (sound_after _) ha hlastJoins

/-- **Events of unknown kinds do not show.** Take any run of calls in which somebody else appends
events of unknown kinds, at whatever moments, to streams in which a session knows something, and in
which what calls append finds room. The calls alone, answered the same in their steps, come to the
same: each is in the same phase, and has the same result, but for positions. Every session is loaded
alike, and the events of known kinds in the two logs are the same. -/
theorem unknown_kinds_invisible (acts : List Act)
    (hjoins : ∀ n (hn : n < acts.length), acts[n].Joins (after (acts.take n)))
    (hfits : ∀ n (hn : n < acts.length), acts[n].Fits (after (acts.take n))) :
    let alone := after (acts.filter Act.ofCall)
    alone.callers.map Caller.unplaced = (after acts).callers.map Caller.unplaced ∧
      (∀ sessionId resourceOwner,
        withoutPlaces Model.unplaced (alone.store.load sessionId resourceOwner) =
          withoutPlaces Model.unplaced ((after acts).store.load sessionId resourceOwner)) ∧
      gist alone.store.log = gist (after acts).store.log := by
  have h := resembles_after hjoins hfits
  have hgist := h.store.gist_eq
  exact ⟨h.map_unplaced_callers, Store.load_alike (sound_after _) (sound_after _) hgist, hgist⟩

/-- Between the load and the append of a call, somebody else appends to its session. -/
def overheard : List Act := takeover ++ [
  .foreign .epoch (.session "s" none) (.atPosition 1) ⟨[{ kind := "session.audited" }], by decide⟩,
  .step 1 contentMoment]

theorem unknown_kinds_invisible_overheard :
    (∀ n (hn : n < overheard.length), overheard[n].Joins (after (overheard.take n))) ∧
      (∀ n (hn : n < overheard.length), overheard[n].Fits (after (overheard.take n))) ∧
      (after (overheard.filter Act.ofCall)).callers.map Caller.unplaced =
        (after overheard).callers.map Caller.unplaced ∧
      ∃ caller caller' outcome outcome',
        (after (overheard.filter Act.ofCall)).callers[1]? = some caller ∧
        (after overheard).callers[1]? = some caller' ∧
        caller.call.phase = .done (.ok outcome) ∧ caller'.call.phase = .done (.ok outcome') ∧
        outcome.attempts = 1 ∧ outcome.model.position = 2 ∧ outcome'.model.position = 3 := by
  have hjoins : ∀ n (hn : n < overheard.length),
      overheard[n].Joins (after (overheard.take n)) := by decide
  have hfits : ∀ n (hn : n < overheard.length),
      overheard[n].Fits (after (overheard.take n)) := by decide
  refine ⟨hjoins, hfits, (unknown_kinds_invisible overheard hjoins hfits).1, ?_⟩
  exact ⟨_, _, _, _, rfl, rfl, rfl, rfl, rfl, rfl, rfl⟩

end World

end SessionLedger
