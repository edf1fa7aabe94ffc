import SessionLedger.Proofs.StreamOrder
import SessionLedger.Session.Model

/-!
# Loading a session from a log

What a fresh model knows after it has been loaded from a log, and when loading it again from a
longer log would make no difference. The second question is the one that an append condition
answers: it asks the log with the model's query after loading, which need not be the query that the
model was loaded with, because a model without an owner takes over the owner of what it folds.

The two queries agree on a sound store all the same. If the owner was taken over, it is the owner
of an event of the stream, and a stream has one owner; so the narrower query selects whatever is
appended to the stream later. If it was not, the queries are the same.

## Main definitions

* `Model.ofLog`, `Store.load` — the model of a session that is loaded from a log, or from a store

## Main results

* `Model.step_eq_ok_iff` — everything that folding one event can do
* `Model.selects_iff` — which events belong to a model
* `Model.position_of_fold`, `Model.identity_of_fold` — where the position and the owner of a loaded
  model come from
* `Store.check_iff` — a model meets its condition just if it selects nothing of what came later
* `Store.load_of_check` — a store that meets a model's condition gives that model again
* `Store.map_facts_load` — a model whose owner is the stream's, or that has none, has the facts of
  all of it
* `Store.facts_of_load` — the facts of a session that has begun are those of its whole stream
-/

namespace SessionLedger

/-! ### Folding -/

namespace Model

variable {m m' : Model} {e : Event} {events : List Event}

/-- An event that was not folded before is applied, and the model moves on to it. -/
theorem step_of_lt (h : m.position < e.position) :
    m.step e = (m.facts.apply e).map fun f => { m.mark e with facts := f } := by
  simp only [step, isUnprocessed, h, decide_true, if_true, apply]
  cases m.facts.apply e <;> rfl

theorem step_of_le (h : e.position ≤ m.position) : m.step e = .ok m := by
  simp only [step, isUnprocessed, UInt64.not_lt.mpr h, decide_false]
  rfl

/-- Folding one event either passes over it, or applies it and moves on to it. -/
theorem step_eq_ok_iff :
    m.step e = .ok m' ↔
      (e.position ≤ m.position ∧ m' = m) ∨
        (m.position < e.position ∧ ∃ f, m.facts.apply e = .ok f ∧
          m' = ({ m with facts := f } : Model).mark e) := by
  by_cases hnew : m.position < e.position
  · have hold : ¬ e.position ≤ m.position := UInt64.not_le.mpr hnew
    rw [step_of_lt hnew]
    cases m.facts.apply e with
    | error fault => simp [hold, Except.map]
    | ok f => simp [hnew, hold, Except.map, eq_comm, mark]
  · have hold : e.position ≤ m.position := UInt64.not_lt.mp hnew
    rw [step_of_le hold]
    simp [hnew, hold, eq_comm]

theorem fold_cons_eq_ok_iff :
    m.fold (e :: events) = .ok m' ↔ ∃ next, m.step e = .ok next ∧ next.fold events = .ok m' := by
  rw [fold_cons]
  cases m.step e <;> simp [Except.bind]

/-- What holds of a model and is kept by folding each event holds after a fold. -/
theorem fold_induction {P : Model → Prop} (hm : P m)
    (hstep : ∀ e ∈ events, ∀ m m' : Model, P m → m.step e = .ok m' → P m')
    (h : m.fold events = .ok m') : P m' := by
  induction events generalizing m with
  | nil => cases h; exact hm
  | cons e events ih =>
    obtain ⟨next, hnext, hrest⟩ := fold_cons_eq_ok_iff.mp h
    exact ih (hstep e List.mem_cons_self m next hm hnext)
      (fun e he => hstep e (List.mem_cons_of_mem _ he)) hrest

/-- With nothing in its buffer, a model folds what is loaded, or stays as it is. -/
theorem load_of_empty (h : m.buffer = []) (events : List Event) :
    m.load events = match m.fold events with
      | .ok m' => (.ok (), m')
      | .error fault => (.error fault, m) := by
  have hm : ({ m with buffer := [] } : Model) = m := by rw [← h]
  cases hfold : m.fold events <;>
    simp only [load, reduce, deliver, takeBuffer, h, List.nil_append, hm, hfold]

theorem buffer_of_fold (h : m.fold events = .ok m') : m'.buffer = m.buffer := by
  refine fold_induction (P := fun x => x.buffer = m.buffer) rfl (fun e _ x x' hx hstep => ?_) h
  rcases step_eq_ok_iff.mp hstep with ⟨-, rfl⟩ | ⟨-, f, -, rfl⟩
  · exact hx
  · exact hx

theorem key_of_adopt (i : Identity) (e : Event) : (adopt i e).key = i.key := by
  rw [adopt]
  split <;> rfl

theorem key_of_fold (h : m.fold events = .ok m') : m'.identity.key = m.identity.key := by
  refine fold_induction (P := fun x => x.identity.key = m.identity.key) rfl
    (fun e _ x x' hx hstep => ?_) h
  rcases step_eq_ok_iff.mp hstep with ⟨-, rfl⟩ | ⟨-, f, -, rfl⟩
  · exact hx
  · rw [← hx]
    exact key_of_adopt _ _

/-- A model stands at one of the events that it has folded, or where it stood before. -/
theorem position_of_fold (h : m.fold events = .ok m') :
    m'.position = m.position ∨ ∃ e ∈ events, m'.position = e.position := by
  refine fold_induction
    (P := fun x => x.position = m.position ∨ ∃ e ∈ events, x.position = e.position) (.inl rfl)
    (fun e he x x' hx hstep => ?_) h
  rcases step_eq_ok_iff.mp hstep with ⟨-, rfl⟩ | ⟨-, f, -, rfl⟩
  · exact hx
  · exact .inr ⟨e, he, rfl⟩

/-- After a fold a model stands behind nothing that it was given. -/
theorem le_position_of_fold (h : m.fold events = .ok m') :
    m.position ≤ m'.position ∧ ∀ e ∈ events, e.position ≤ m'.position := by
  induction events generalizing m with
  | nil => cases h; exact ⟨UInt64.le_refl _, by simp⟩
  | cons e events ih =>
    obtain ⟨next, hstep, hrest⟩ := fold_cons_eq_ok_iff.mp h
    obtain ⟨hnext, hle⟩ := ih hrest
    have hmoved : m.position ≤ next.position ∧ e.position ≤ next.position := by
      rcases step_eq_ok_iff.mp hstep with ⟨hold, rfl⟩ | ⟨hnew, f, -, rfl⟩
      · exact ⟨UInt64.le_refl _, hold⟩
      · exact ⟨UInt64.le_of_lt hnew, UInt64.le_refl _⟩
    exact ⟨UInt64.le_trans hmoved.1 hnext,
      List.forall_mem_cons.mpr ⟨UInt64.le_trans hmoved.2 hnext, hle⟩⟩

/-- The owner of a model is the one it had, or the owner of an event that it has folded. -/
theorem identity_of_fold (h : m.fold events = .ok m') :
    m'.identity = m.identity ∨
      m.identity.owner? = none ∧ ∃ e ∈ events, m'.identity.owner? = some e.resourceOwner := by
  refine fold_induction
    (P := fun x => x.identity = m.identity ∨
      m.identity.owner? = none ∧ ∃ e ∈ events, x.identity.owner? = some e.resourceOwner)
    (.inl rfl) (fun e he x x' hx hstep => ?_) h
  rcases step_eq_ok_iff.mp hstep with ⟨-, rfl⟩ | ⟨-, f, -, rfl⟩
  · exact hx
  · by_cases hadopt : x.identity.owner? = none ∧ e.resourceOwner ≠ ""
    · have howner : (adopt x.identity e).owner? = some e.resourceOwner := by
        rw [adopt, if_pos hadopt]
        simp [Identity.owner?, hadopt.2]
      rcases hx with hx | ⟨hnone, -⟩
      · exact .inr ⟨hx ▸ hadopt.1, e, he, howner⟩
      · exact .inr ⟨hnone, e, he, howner⟩
    · have hkept : (({ x with facts := f } : Model).mark e).identity = x.identity := by
        simp only [mark, adopt, if_neg hadopt]
      rw [hkept]
      exact hx

/-- Moving on does not look at the facts. -/
theorem foldl_mark_facts (m : Model) (f : Facts) (events : List Event) :
    events.foldl mark { m with facts := f } = { events.foldl mark m with facts := f } := by
  induction events generalizing m with
  | nil => rfl
  | cons e events ih => exact ih (m.mark e)

/-- A model that folds events in the order of their positions passes over none of them: it applies
them one after the other, and moves on to each. -/
theorem fold_eq_map (hpast : ∀ e ∈ events, m.position < e.position)
    (hinc : events.Pairwise fun e e' => e.position < e'.position) :
    m.fold events =
      (events.foldlM Facts.apply m.facts).map fun f => { events.foldl mark m with facts := f } := by
  induction events generalizing m with
  | nil => rfl
  | cons e events ih =>
    obtain ⟨hlt, hinc⟩ := List.pairwise_cons.mp hinc
    rw [fold_cons, step_of_lt (hpast e List.mem_cons_self), List.foldlM_cons]
    cases m.facts.apply e with
    | error fault => rfl
    | ok f =>
      refine (ih (m := { m.mark e with facts := f }) hlt hinc).trans ?_
      rw [foldl_mark_facts]
      rfl

/-- The facts of a model that folds events in the order of their positions are the facts of these
events; nothing is passed over. -/
theorem map_facts_fold (hpast : ∀ e ∈ events, m.position < e.position)
    (hinc : events.Pairwise fun e e' => e.position < e'.position) :
    (m.fold events).map Model.facts = events.foldlM Facts.apply m.facts := by
  rw [fold_eq_map hpast hinc]
  cases events.foldlM Facts.apply m.facts <;> rfl

end Model

/-! ### Selecting -/

theorem SessionEvent.Kind.mem_names_iff {name : String} :
    name ∈ all.map Kind.name ↔ ∃ kind, ofName? name = some kind := by
  constructor
  · intro h
    obtain ⟨kind, -, rfl⟩ := List.mem_map.mp h
    exact ⟨kind, ofName?_name kind⟩
  · rintro ⟨kind, h⟩
    rw [← name_of_ofName? h]
    exact List.mem_map.mpr ⟨kind, by cases kind <;> decide, rfl⟩

namespace Model

variable {m : Model} {e : Event}

/-- A model's query selects the events of its stream that a session knows, and of those only its
owner's, if it has one. -/
theorem selects_iff :
    m.query.selects e = true ↔
      e.key = ⟨sessionType, m.sessionId⟩ ∧
        (∀ owner ∈ m.identity.owner?, owner = e.resourceOwner) ∧
        (∃ kind, SessionEvent.Kind.ofName? e.kind = some kind) ∧ 0 < e.position := by
  have hkinds : SessionEvent.Kind.all.map SessionEvent.Kind.name ≠ [] := by decide
  rw [Query.selects_iff]
  simp only [query, List.cons_ne_nil, List.mem_singleton, false_or, hkinds,
    SessionEvent.Kind.mem_names_iff, Event.key, StreamKey.mk.injEq, and_assoc]

end Model

/-! ### The model of a log -/

/-- The model of a session after its events were loaded from a log. -/
def Model.ofLog (sessionId : String) (resourceOwner : Option String) (log : List Event) :
    Except Error Model :=
  (Model.new sessionId resourceOwner).loaded ((Model.new sessionId resourceOwner).query.run log)

/-- The model of a session after its events were loaded from a store. -/
def Store.load (s : Store) (sessionId : String) (resourceOwner : Option String) :
    Except Error Model :=
  Model.ofLog sessionId resourceOwner s.log

namespace Model

variable {sessionId : String} {resourceOwner : Option String} {log : List Event} {m : Model}

theorem run_query (m : Model) (log : List Event) : m.query.run log = log.filter m.query.selects :=
  Query.run_of_limit_none rfl log

theorem ofLog_eq_fold (sessionId : String) (resourceOwner : Option String) (log : List Event) :
    ofLog sessionId resourceOwner log =
      (Model.new sessionId resourceOwner).fold
        (log.filter (Model.new sessionId resourceOwner).query.selects) := by
  rw [ofLog, loaded_of_empty rfl, run_query]

theorem buffer_of_ofLog (h : ofLog sessionId resourceOwner log = .ok m) : m.buffer = [] := by
  rw [ofLog_eq_fold] at h
  exact buffer_of_fold h

theorem key_of_ofLog (h : ofLog sessionId resourceOwner log = .ok m) :
    m.identity.key = ⟨sessionType, sessionId⟩ := by
  rw [ofLog_eq_fold] at h
  exact key_of_fold h

/-- A loaded model keeps the owner that was named. -/
theorem owner_of_ofLog {owner : String} (hload : ofLog sessionId resourceOwner log = .ok m)
    (howner : (Identity.session sessionId resourceOwner).owner? = some owner) :
    m.identity.owner? = some owner := by
  rw [ofLog_eq_fold] at hload
  rcases identity_of_fold hload with hid | ⟨hnone, -⟩
  · rw [hid]
    exact howner
  · exact absurd (hnone.symm.trans howner) nofun

end Model

/-! ### Conditions -/

section Greatest

variable {α : Type} {op : α → α → α}

/-- A fold that chooses one of two values each time ends at its beginning or at one of the list. -/
theorem foldl_mem_of_chooses (hop : ∀ a b, op a b = a ∨ op a b = b) (l : List α) (start : α) :
    l.foldl op start = start ∨ l.foldl op start ∈ l := by
  induction l generalizing start with
  | nil => exact .inl rfl
  | cons a l ih =>
    rw [List.foldl_cons]
    rcases ih (op start a) with hsame | hmem
    · rw [hsame]
      rcases hop start a with hleft | hright
      · exact .inl hleft
      · exact .inr (hright.symm ▸ List.mem_cons_self)
    · exact .inr (List.mem_cons_of_mem a hmem)

/-- A fold that never falls ends above its beginning and above all of the list. -/
theorem le_foldl {le : α → α → Prop} (hrefl : ∀ a, le a a)
    (htrans : ∀ {a b c}, le a b → le b c → le a c) (hop : ∀ a b, le a (op a b) ∧ le b (op a b))
    (l : List α) (start : α) : le start (l.foldl op start) ∧ ∀ a ∈ l, le a (l.foldl op start) := by
  induction l generalizing start with
  | nil => exact ⟨hrefl start, by simp⟩
  | cons a l ih =>
    obtain ⟨hstart, hmem⟩ := ih (op start a)
    obtain ⟨hleft, hright⟩ := hop start a
    exact ⟨htrans hleft hstart, List.forall_mem_cons.mpr ⟨htrans hright hstart, hmem⟩⟩

end Greatest

namespace Condition

theorem le_greatest {position : UInt64} {positions : List UInt64} (h : position ∈ positions) :
    position ≤ greatest positions := by
  have hmax : ∀ a b : UInt64, a ≤ max a b ∧ b ≤ max a b := by
    intro a b
    change a ≤ (if a ≤ b then b else a) ∧ b ≤ (if a ≤ b then b else a)
    split
    · next hle => exact ⟨hle, UInt64.le_refl b⟩
    · next hle => exact ⟨UInt64.le_refl a, UInt64.le_of_lt (UInt64.not_le.mp hle)⟩
  exact (le_foldl UInt64.le_refl UInt64.le_trans hmax positions 0).2 position h

theorem greatest_le {positions : List UInt64} {bound : UInt64}
    (h : ∀ p ∈ positions, p ≤ bound) : greatest positions ≤ bound := by
  -- The greatest so far is carried along, so the claim is about any beginning below the bound.
  have hfold : ∀ start ≤ bound, positions.foldl max start ≤ bound := by
    induction positions with
    | nil => exact fun start hstart => hstart
    | cons a l ih =>
      obtain ⟨ha, hl⟩ := List.forall_mem_cons.mp h
      refine fun start hstart => ih hl _ ?_
      change (if start ≤ a then a else start) ≤ bound
      split
      · exact ha
      · exact hstart
  exact hfold 0 UInt64.zero_le

theorem le_observed {c : Condition} {stream : List Event} {e : Event} (he : e ∈ stream)
    (hsel : c.query.selects e = true) : e.position ≤ c.observed stream :=
  le_greatest (List.mem_map.mpr ⟨e, List.mem_filter.mpr ⟨he, hsel⟩, rfl⟩)

end Condition

/-! ### Loading again -/

/-- Events that a session does not know take no part in its facts. -/
theorem Facts.foldlM_apply_filter_known (f : Facts) (events : List Event) :
    (events.filter fun e => (SessionEvent.Kind.ofName? e.kind).isSome).foldlM apply f =
      events.foldlM apply f := by
  induction events generalizing f with
  | nil => rfl
  | cons e events ih =>
    cases hkind : SessionEvent.Kind.ofName? e.kind with
    | none =>
      rw [List.filter_cons_of_neg (by simp [hkind]), List.foldlM_cons, apply_of_unknown hkind]
      exact ih f
    | some kind =>
      rw [List.filter_cons_of_pos (by simp [hkind]), List.foldlM_cons, List.foldlM_cons]
      exact congrArg _ (funext fun f' => ih f')

namespace Store

open Model

variable {s : Store} {sessionId : String} {resourceOwner : Option String} {m : Model}
  {past more : List Event}

/-- A loaded model selects nothing that the fresh model would not. -/
theorem selects_new_of_selects {log : List Event}
    (hload : ofLog sessionId resourceOwner log = .ok m) {e : Event}
    (hsel : m.query.selects e = true) :
    (Model.new sessionId resourceOwner).query.selects e = true := by
  obtain ⟨hkey, howner, hkind, hpos⟩ := selects_iff.mp hsel
  exact selects_iff.mpr ⟨hkey.trans (congrArg _ (StreamKey.mk.inj (key_of_ofLog hload)).2),
    fun owner hnamed => howner owner (owner_of_ofLog hload hnamed), hkind, hpos⟩

/-- The query of the loaded model selects what the query of the fresh model does: if an owner was
taken over in between, it is the owner of the whole stream. -/
theorem selects_eq_new (hs : s.Sound) (hpast : past <+: s.log)
    (hload : ofLog sessionId resourceOwner past = .ok m) {e : Event} (he : e ∈ s.log) :
    m.query.selects e = (Model.new sessionId resourceOwner).query.selects e := by
  rw [Bool.eq_iff_iff]
  constructor
  · exact selects_new_of_selects hload
  · intro hsel
    obtain ⟨hkey, howner, hkind, hpos⟩ := selects_iff.mp hsel
    rw [ofLog_eq_fold] at hload
    refine selects_iff.mpr ⟨?_, fun owner howner' => ?_, hkind, hpos⟩
    · rw [hkey]
      exact congrArg _ (StreamKey.mk.inj (key_of_fold hload)).2.symm
    · rcases identity_of_fold hload with hid | ⟨-, e', he', hid⟩
      · exact howner owner (hid ▸ howner')
      · obtain ⟨hmem', hsel'⟩ := List.mem_filter.mp he'
        rw [hid] at howner'
        obtain rfl := Option.some.inj howner'
        exact hs.owner_eq (mem_stream.mpr ⟨hpast.subset hmem', rfl⟩)
          (mem_stream.mpr ⟨he, by rw [hkey, (selects_iff.mp hsel').1]⟩)

/-- The stream of a loaded model has what the model selects. -/
theorem mem_stream_of_selects {log : List Event}
    (hload : ofLog sessionId resourceOwner log = .ok m) {e : Event} (he : e ∈ s.log)
    (hsel : m.query.selects e = true) : e ∈ s.stream m.identity.key := by
  have hnew := selects_iff.mp (selects_new_of_selects hload hsel)
  exact mem_stream.mpr ⟨he, hnew.1.trans (key_of_ofLog hload).symm⟩

/-- A loaded model stands before all events of its session that come later in the log. -/
theorem position_lt_of_later (hs : s.Sound) (hlog : past ++ more = s.log)
    (hload : ofLog sessionId resourceOwner past = .ok m) {e : Event} (he : e ∈ more)
    (hsel : (Model.new sessionId resourceOwner).query.selects e = true) :
    m.position < e.position := by
  have hkey : e.key = ⟨sessionType, sessionId⟩ := (selects_iff.mp hsel).1
  have hmem : e ∈ s.log := hlog ▸ List.mem_append_right past he
  rw [ofLog_eq_fold] at hload
  rcases position_of_fold hload with hpos | ⟨e', he', hpos⟩
  · rw [hpos]
    exact hs.pos_of_mem hmem
  · obtain ⟨hmem', hsel'⟩ := List.mem_filter.mp he'
    have hkey' : e'.key = ⟨sessionType, sessionId⟩ := (selects_iff.mp hsel').1
    have hinc := hs.increasing ⟨sessionType, sessionId⟩
    rw [stream, ← hlog, List.filter_append, List.pairwise_append] at hinc
    rw [hpos]
    exact hinc.2.2 e' (List.mem_filter.mpr ⟨hmem', by simp [hkey']⟩) e
      (List.mem_filter.mpr ⟨he, by simp [hkey]⟩)

/-- When nothing came later that a loaded model selects, the last event that it selects is the one
it stands at, provided that it selects that one. -/
theorem observed_eq (hlog : past ++ more = s.log)
    (hload : ofLog sessionId resourceOwner past = .ok m)
    (hstands : ∀ e ∈ past, (Model.new sessionId resourceOwner).query.selects e = true →
      e.position = m.position → m.query.selects e = true)
    (hnone : ∀ e ∈ more, ¬ m.query.selects e = true) :
    (Condition.of m).observed (s.stream m.identity.key) = m.position := by
  have hfold := hload
  rw [ofLog_eq_fold] at hfold
  refine UInt64.le_antisymm (Condition.greatest_le fun p hp => ?_) ?_
  · obtain ⟨e, he, rfl⟩ := List.mem_map.mp hp
    obtain ⟨hstream, hsel⟩ := List.mem_filter.mp he
    have hfolded : e ∈ past := (List.mem_append.mp (hlog ▸ (mem_stream.mp hstream).1)).resolve_right
      fun he => hnone e he hsel
    exact (le_position_of_fold hfold).2 e
      (List.mem_filter.mpr ⟨hfolded, selects_new_of_selects hload hsel⟩)
  · rcases position_of_fold hfold with hzero | ⟨e, he, hposition⟩
    · rw [hzero]
      exact UInt64.zero_le
    · obtain ⟨hfolded, hsel⟩ := List.mem_filter.mp he
      have hmem : e ∈ s.log := hlog ▸ List.mem_append_left more hfolded
      have hselected := hstands e hfolded hsel hposition.symm
      rw [hposition]
      exact Condition.le_observed (mem_stream_of_selects hload hmem hselected) hselected

/-- **A model meets its condition just if it selects nothing of what came later.** The condition is
asked with the model's own query, which an owner that was taken over may have made narrower than the
one the model was loaded with. -/
theorem check_iff (hs : s.Sound) (hlog : past ++ more = s.log)
    (hload : ofLog sessionId resourceOwner past = .ok m) :
    (Condition.of m).check (s.stream m.identity.key) = .ok () ↔
      more.filter m.query.selects = [] := by
  have hpast : past <+: s.log := ⟨more, hlog⟩
  have hmem : ∀ e ∈ more, e ∈ s.log := fun e he => hlog ▸ List.mem_append_right past he
  rw [Condition.check_eq_ok_iff, List.filter_eq_nil_iff]
  constructor
  · intro hobserved e he hsel
    have hle : e.position ≤ (Condition.of m).position := by
      rw [← hobserved]
      exact Condition.le_observed (mem_stream_of_selects hload (hmem e he) hsel) hsel
    rw [selects_eq_new hs hpast hload (hmem e he)] at hsel
    exact absurd (position_lt_of_later hs hlog hload he hsel) (UInt64.not_lt.mpr hle)
  · refine observed_eq hlog hload fun e he hsel _ => ?_
    rw [selects_eq_new hs hpast hload (hpast.subset he)]
    exact hsel

/-- **A store that meets a model's condition gives that model again.** -/
theorem load_of_check (hs : s.Sound) (hpast : past <+: s.log)
    (hload : ofLog sessionId resourceOwner past = .ok m)
    (hcheck : (Condition.of m).check (s.stream m.identity.key) = .ok ()) :
    s.load sessionId resourceOwner = .ok m := by
  obtain ⟨more, hlog⟩ := hpast
  have hnone : more.filter (Model.new sessionId resourceOwner).query.selects = [] := by
    rw [← (check_iff hs hlog hload).mp hcheck]
    exact List.filter_congr fun e he =>
      (selects_eq_new hs ⟨more, hlog⟩ hload (hlog ▸ List.mem_append_right past he)).symm
  rw [ofLog_eq_fold] at hload
  rw [Store.load, ofLog_eq_fold, ← hlog, List.filter_append, hnone, List.append_nil, hload]

/-- A fresh model that names no owner, or the owner of the stream, selects every event of the stream
that a session knows. -/
theorem filter_selects_new (hs : s.Sound)
    (howner : ∀ owner ∈ (Identity.session sessionId resourceOwner).owner?,
      ∀ e ∈ s.stream ⟨sessionType, sessionId⟩, e.resourceOwner = owner) :
    s.log.filter (Model.new sessionId resourceOwner).query.selects =
      (s.stream ⟨sessionType, sessionId⟩).filter
        fun e => (SessionEvent.Kind.ofName? e.kind).isSome := by
  rw [stream, List.filter_filter]
  refine List.filter_congr fun e he => ?_
  rw [Bool.eq_iff_iff, selects_iff, Bool.and_eq_true, Option.isSome_iff_exists, beq_iff_eq]
  constructor
  · rintro ⟨hkey, -, hkind, -⟩
    exact ⟨hkind, hkey⟩
  · rintro ⟨hkind, hkey⟩
    have hmem : e ∈ s.stream ⟨sessionType, sessionId⟩ := mem_stream.mpr ⟨he, hkey⟩
    exact ⟨hkey, fun owner hnamed => (howner owner hnamed e hmem).symm, hkind, hs.position_pos hmem⟩

/-- Such a model has the facts of the whole stream, and fails to load just if they cannot be
folded. -/
theorem map_facts_load (hs : s.Sound)
    (howner : ∀ owner ∈ (Identity.session sessionId resourceOwner).owner?,
      ∀ e ∈ s.stream ⟨sessionType, sessionId⟩, e.resourceOwner = owner) :
    (s.load sessionId resourceOwner).map Model.facts =
      (s.stream ⟨sessionType, sessionId⟩).foldlM Facts.apply {} := by
  have hpast : ∀ e ∈ (s.stream ⟨sessionType, sessionId⟩).filter
      (fun e => (SessionEvent.Kind.ofName? e.kind).isSome), 0 < e.position :=
    fun e he => hs.position_pos (List.mem_filter.mp he).1
  rw [Store.load, ofLog_eq_fold, filter_selects_new hs howner,
    map_facts_fold hpast ((hs.increasing _).filter _)]
  exact Facts.foldlM_apply_filter_known {} _

/-- The stream of a session that has begun, as far as somebody who names an owner can see, is that
owner's. -/
theorem owner_of_begun (hs : s.Sound) (hload : s.load sessionId resourceOwner = .ok m)
    (hbegun : m.facts.state ≠ .uninitialized) {owner : String}
    (hnamed : (Identity.session sessionId resourceOwner).owner? = some owner) :
    ∀ e ∈ s.stream ⟨sessionType, sessionId⟩, e.resourceOwner = owner := by
  intro e he
  rw [Store.load, ofLog_eq_fold] at hload
  cases hsel : s.log.filter (Model.new sessionId resourceOwner).query.selects with
  | nil =>
    rw [hsel] at hload
    cases hload
    exact absurd rfl hbegun
  | cons seen rest =>
    obtain ⟨hmem, hselected⟩ := List.mem_filter.mp (hsel ▸ List.mem_cons_self : seen ∈ _)
    obtain ⟨hkey, howner, -, -⟩ := selects_iff.mp hselected
    rw [howner owner hnamed]
    exact hs.owner_eq he (mem_stream.mpr ⟨hmem, hkey⟩)

end Store

end SessionLedger
