import SessionLedger.Proofs.Delivery
import SessionLedger.Proofs.Importing
import SessionLedger.Proofs.Operations

/-!
# Reading a stream page by page

A reader that does not want a whole stream at once asks for so many events, then for as many past
the last that it received, and so on, until it receives fewer than it asked for. It gets every event
just once and in order, though the log has the events of all streams mixed up and the position of an
event says nothing about its place there. What makes it work is that the query is about one stream:
only inside a stream do positions increase along the log. Over two streams the same loop may lose
events and repeat others.

The loop comes to its end on every store and for every query, because each page begins past the one
before, and there are only so many positions.

## Main definitions

* `Query.OfStream` — the query asks for one stream, without a limit
* `Store.pages` — what the reader receives, page by page
* `Cut` — a list cut into full pages and a last one that is not full

## Main results

* `InOrder.cut_pages` — the reader receives what the query selects, cut into pages
* `Model.loadEach_eq_load` — a model that loads some batches comes to what it comes to with all at
  once
* `Store.paging_complete` — paging loses nothing and repeats nothing
-/

namespace SessionLedger

/-! ### Queries of one stream -/

/-- The query asks for one stream, and for as many of its events as there are. -/
structure Query.OfStream (q : Query) (key : StreamKey) : Prop where
  types : q.aggregateTypes = [key.aggregateType]
  ids : q.aggregateIds = [key.id]
  unlimited : q.limit = none

namespace Query

variable {q : Query} {key : StreamKey} {e : Event} {position : UInt64}

theorem OfStream.past (h : q.OfStream key) (position : UInt64) :
    (q.past position).OfStream key where
  types := h.types
  ids := h.ids
  unlimited := h.unlimited

theorem OfStream.key_eq (h : q.OfStream key) (he : q.selects e = true) : e.key = key := by
  obtain ⟨htype, hid, -⟩ := selects_iff.mp he
  rw [h.types] at htype
  rw [h.ids] at hid
  rw [Event.key, List.mem_singleton.mp (htype.resolve_left (List.cons_ne_nil _ _)),
    List.mem_singleton.mp (hid.resolve_left (List.cons_ne_nil _ _))]

/-- Past a later position a query selects what lies there of all that it selected. -/
theorem selects_past_iff (h : q.after ≤ position) :
    (q.past position).selects e = true ↔ q.selects e = true ∧ position < e.position := by
  rw [selects_iff, selects_iff]
  constructor
  · rintro ⟨htype, hid, howner, hkind, hpast⟩
    exact ⟨⟨htype, hid, howner, hkind, UInt64.lt_of_le_of_lt h hpast⟩, hpast⟩
  · rintro ⟨⟨htype, hid, howner, hkind, -⟩, hpast⟩
    exact ⟨htype, hid, howner, hkind, hpast⟩

end Query

namespace Store

variable {s : Store} {q : Query} {key : StreamKey} {e last : Event} {size : UInt64} {n : Nat}

theorem after_lt_of_mem_filter (h : e ∈ s.filter q) : q.after < e.position := by
  have hselects : q.selects e = true := by
    rw [filter, Query.run] at h
    split at h
    · exact (List.mem_filter.mp (List.mem_of_mem_take h)).2
    · exact (List.mem_filter.mp h).2
  exact (Query.selects_iff.mp hselects).2.2.2.2

/-! ### Asking for page after page -/

/-- What a reader receives that asks for a page of events, and then for the page past the last event
that it received, until a page is not full. A page that has no room for an event is the last. -/
def pages (s : Store) (size : UInt64) (q : Query) : List (List Event) :=
  let page := s.filter (q.atMost size)
  if page.length < size.toNat then [page]
  else
    match h : page.getLast? with
    | some last =>
      have : (q.atMost size).after < last.position :=
        after_lt_of_mem_filter (List.mem_of_getLast? h)
      page :: s.pages size (q.past last.position)
    | none => [page]
termination_by UInt64.size - q.after.toNat
decreasing_by
  have := UInt64.lt_iff_toNat_lt.mp this
  have := last.position.toNat_lt_size
  simp only [Query.past, Query.atMost] at *
  omega

theorem filter_atMost (h : q.OfStream key) (size : UInt64) :
    s.filter (q.atMost size) = (s.filter q).take size.toNat := by
  rw [filter, filter, Query.run_of_limit_none h.unlimited]
  rfl

theorem filter_past (h : q.OfStream key) {position : UInt64} (hposition : q.after ≤ position) :
    s.filter (q.past position) = (s.filter q).filter fun e => decide (position < e.position) := by
  rw [filter, filter, Query.run_of_limit_none h.unlimited,
    Query.run_of_limit_none (h.past position).unlimited, List.filter_filter]
  refine List.filter_congr fun e _ => ?_
  rw [Bool.eq_iff_iff, Query.selects_past_iff hposition, Bool.and_eq_true, decide_eq_true_iff,
    and_comm]

end Store

/-! ### Cutting events into pages -/

/-- The events, cut into full pages and a last one that is not full. -/
inductive Cut (n : Nat) : List Event → List (List Event) → Prop
  | last {events : List Event} (h : events.length < n) : Cut n events [events]
  | more {events : List Event} {pages : List (List Event)} (h : n ≤ events.length)
      (rest : Cut n (events.drop n) pages) : Cut n events (events.take n :: pages)

namespace Cut

variable {n : Nat} {events : List Event} {pages : List (List Event)}

theorem flatten_eq (h : Cut n events pages) : pages.flatten = events := by
  induction h with
  | last => simp
  | more _ _ ih => rw [List.flatten_cons, ih, List.take_append_drop]

theorem length_eq (h : Cut n events pages) (hn : 0 < n) :
    pages.length = events.length / n + 1 := by
  induction h with
  | last h => rw [Nat.div_eq_of_lt h]; rfl
  | more h _ ih => rw [List.length_cons, ih, List.length_drop, Nat.div_eq_sub_div hn h]

theorem length_le (h : Cut n events pages) : ∀ page ∈ pages, page.length ≤ n := by
  induction h with
  | last h => simpa using Nat.le_of_lt h
  | more _ _ ih =>
    intro page hpage
    rcases List.mem_cons.mp hpage with rfl | hpage
    · exact List.length_take_le ..
    · exact ih page hpage

end Cut

/-- What lies past the last event of a page, in a list in which positions increase, is what comes
after the page. -/
theorem filter_past_last {events : List Event} {n : Nat} {last : Event}
    (hinc : events.Pairwise fun e e' => e.position < e'.position)
    (hlast : (events.take n).getLast? = some last) :
    events.filter (fun e => decide (last.position < e.position)) = events.drop n := by
  rw [← List.take_append_drop n events, List.pairwise_append] at hinc
  obtain ⟨hpage, -, hpast⟩ := hinc
  obtain ⟨init, hinit⟩ := List.getLast?_eq_some_iff.mp hlast
  have hupto : ∀ e ∈ events.take n, ¬ last.position < e.position := by
    rw [hinit] at hpage ⊢
    intro e he
    rcases List.mem_append.mp he with he | he
    · exact UInt64.not_lt.mpr <| UInt64.le_of_lt <|
        (List.pairwise_append.mp hpage).2.2 e he last (List.mem_singleton_self _)
    · rw [List.mem_singleton.mp he]
      exact UInt64.lt_irrefl _
  have hmem : last ∈ events.take n := List.mem_of_getLast? hlast
  calc events.filter (fun e => decide (last.position < e.position))
    _ = (events.take n ++ events.drop n).filter fun e => decide (last.position < e.position) := by
      rw [List.take_append_drop]
    _ = [] ++ events.drop n := by
      rw [List.filter_append, List.filter_eq_nil_iff.mpr fun e he => by simpa using hupto e he,
        List.filter_eq_self.mpr fun e he => by simpa using hpast last hmem e he]

/-! ### Nothing lost, nothing repeated -/

namespace InOrder

variable {s : Store} {q : Query} {key : StreamKey} {size : UInt64}

/-- A query of one stream hands out increasing positions. -/
theorem increasing_filter (hs : InOrder s.log) (hq : q.OfStream key) :
    (s.filter q).Pairwise fun e e' => e.position < e'.position := by
  have hstream : s.filter q = (s.log.filter fun e => e.key == key).filter q.selects := by
    rw [Store.filter, Query.run_of_limit_none hq.unlimited, List.filter_filter]
    refine List.filter_congr fun e _ => ?_
    cases hselects : q.selects e with
    | false => rfl
    | true => simp [hq.key_eq hselects]
  rw [hstream]
  exact (hs.increasing key).filter _

/-- The reader receives what the query selects, cut into pages. -/
theorem cut_pages (hs : InOrder s.log) (hq : q.OfStream key) (hsize : 0 < size) :
    Cut size.toNat (s.filter q) (s.pages size q) := by
  have hpos : 0 < size.toNat := UInt64.lt_iff_toNat_lt.mp hsize
  -- A full page leaves fewer events for the pages that come after it.
  induction hlength : (s.filter q).length using Nat.strongRecOn generalizing q with
  | ind length ih =>
    subst hlength
    rw [Store.pages]
    simp only [Store.filter_atMost hq, List.length_take]
    split
    · next hshort =>
      rw [List.take_of_length_le (by omega)]
      exact .last (by omega)
    · next hfull =>
      have hle : size.toNat ≤ (s.filter q).length := by omega
      split
      · next last hlast =>
        rw [Store.filter_atMost hq] at hlast
        have hmem : last ∈ s.filter q := List.mem_of_mem_take (List.mem_of_getLast? hlast)
        have hafter := UInt64.le_of_lt (Store.after_lt_of_mem_filter hmem)
        have hrest : s.filter (q.past last.position) = (s.filter q).drop size.toNat := by
          rw [Store.filter_past hq hafter,
            filter_past_last (hs.increasing_filter hq) hlast]
        refine .more hle (hrest ▸ ih _ ?_ (hq.past _) rfl)
        rw [hrest, List.length_drop]
        omega
      · next hnone =>
        rw [Store.filter_atMost hq] at hnone
        have hempty := congrArg List.length (List.getLast?_eq_none_iff.mp hnone)
        rw [List.length_take, List.length_nil] at hempty
        omega

end InOrder

theorem Store.Sound.inOrder {s : Store} (h : s.Sound) : InOrder s.log where
  positive _ he := h.pos_of_mem he
  increasing key := h.increasing key

/-! ### Loading page by page -/

namespace Model

/-- A load goes through the buffer first. -/
theorem load_eq_load_buffer (m : Model) (events : List Event) :
    m.load events = ({ m with buffer := [] }).load (m.buffer ++ events) := rfl

/-- Batch by batch or all at once, a load ends alike, and if it goes well it leads to the same
model. -/
theorem loadEach_eq_load (m : Model) {batches : List (List Event)} (h : batches ≠ []) :
    (m.loadEach batches).1 = (m.load batches.flatten).1 ∧
      ((m.load batches.flatten).1 = .ok () → m.loadEach batches = m.load batches.flatten) := by
  obtain ⟨batch, batches, rfl⟩ := List.exists_cons_of_ne_nil h
  have hempty : ({ m with buffer := [] } : Model).buffer = [] := rfl
  have heach : m.loadEach (batch :: batches) =
      ({ m with buffer := [] } : Model).loadEach ((m.buffer ++ batch) :: batches) := rfl
  obtain ⟨herror, hok⟩ := loadEach_of_empty hempty ((m.buffer ++ batch) :: batches)
  rw [heach, load_eq_load_buffer, load_of_empty hempty, List.flatten_cons, ← List.append_assoc,
    ← List.flatten_cons]
  cases hfold : ({ m with buffer := [] } : Model).fold ((m.buffer ++ batch) :: batches).flatten with
  | error fault => exact ⟨herror fault hfold, nofun⟩
  | ok m' => exact ⟨congrArg Prod.fst (hok m' hfold), fun _ => hok m' hfold⟩

end Model

namespace Store

variable {s : Store} {q : Query} {key : StreamKey} {size : UInt64}

/-- **Paging loses nothing and repeats nothing.** In a store that comes of appends, or of an import,
a reader that asks for one stream page by page receives just the events that it would receive at
once, in the same order, on as many pages as they need and one that is not full. And a model of a
session that loads the pages one after the other ends as it ends if it loads all events at once; if
that goes well, it is the same model. -/
theorem paging_complete
    (hs : s.Reached ∨ ∃ log, ofEvents log = .ok s)
    (hq : q.OfStream key) (hsize : 0 < size) :
    (s.pages size q).flatten = s.filter q ∧
      (s.pages size q).length = (s.filter q).length / size.toNat + 1 ∧
      (∀ page ∈ s.pages size q, page.length ≤ size.toNat) ∧
      ∀ m : Model, (m.loadEach (s.pages size q)).1 = (m.load (s.filter q)).1 ∧
        ((m.load (s.filter q)).1 = .ok () →
          m.loadEach (s.pages size q) = m.load (s.filter q)) := by
  have horder : InOrder s.log := by
    obtain hreached | ⟨log, hlog⟩ := hs
    · exact hreached.sound.inOrder
    · obtain ⟨horder, rfl, -⟩ := of_ofEvents hlog
      exact horder
  have hcut := horder.cut_pages hq hsize
  have hlength := hcut.length_eq (UInt64.lt_iff_toNat_lt.mp hsize)
  have hne : s.pages size q ≠ [] := List.ne_nil_of_length_pos (hlength ▸ Nat.succ_pos _)
  refine ⟨hcut.flatten_eq, hlength, hcut.length_le, fun m => ?_⟩
  rw [← hcut.flatten_eq]
  exact m.loadEach_eq_load hne

/-- An exported log of two streams whose positions go their own ways. -/
def interleavedLog : List Event :=
  let stored (id : String) (position : UInt64) : Event :=
    (SessionEvent.tokenSet id).toPending.stored ⟨sessionType, id⟩ "org" position .epoch
  [stored "a" 4, stored "b" 1, stored "a" 7, stored "b" 2, stored "a" 8]

theorem paging_complete_interleavedLog : ∃ s, ofEvents interleavedLog = .ok s ∧
    ∃ q : Query, q.OfStream ⟨sessionType, "a"⟩ ∧
      (s.filter q).map Event.position = [4, 7, 8] ∧
      (s.pages 2 q).flatten = s.filter q ∧ (s.pages 2 q).length = 2 ∧
      (Model.new "a" none).loadEach (s.pages 2 q) = (Model.new "a" none).load (s.filter q) := by
  obtain ⟨s, hs⟩ : ∃ s, ofEvents interleavedLog = .ok s := ⟨_, rfl⟩
  have hq : (Model.new "a" none).query.OfStream ⟨sessionType, "a"⟩ := ⟨rfl, rfl, rfl⟩
  obtain ⟨hflatten, hlength, -, hmodel⟩ :=
    paging_complete (.inr ⟨_, hs⟩) hq (show (0 : UInt64) < 2 by decide)
  cases hs
  exact ⟨_, rfl, _, hq, rfl, hflatten, hlength, (hmodel _).2 rfl⟩

end Store

end SessionLedger
