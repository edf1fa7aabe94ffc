/-!
# Maps from text keys

A finite map from strings, held as its entries in strictly increasing key order. The order makes
the entries a normal form: two maps that look up alike are equal, whatever was inserted or erased
on the way there. Keys are ordered by code point, which is also the order of their UTF-8 bytes.

## Main definitions

* `KeyMap` — the type
* `KeyMap.get?`, `KeyMap.insert`, `KeyMap.erase` — look-up and change of one key
* `KeyMap.ofList` — the map of a list of entries, in which the last entry of a key counts

## Main results

* `KeyMap.get?_insert`, `KeyMap.get?_erase`, `KeyMap.get?_empty` — look-up after a change
* `KeyMap.ext` — maps that look up alike are equal
* `KeyMap.ofList_entries` — a map is the map of its own entries
-/

namespace SessionLedger

variable {α : Type}

/-- Entries in strictly increasing key order. -/
def KeySorted (entries : List (String × α)) : Prop :=
  entries.Pairwise fun a b => a.1 < b.1

instance (entries : List (String × α)) : Decidable (KeySorted entries) :=
  inferInstanceAs (Decidable (List.Pairwise _ _))

/-- A finite map from strings. -/
structure KeyMap (α : Type) where
  /-- The entries, each key once. -/
  entries : List (String × α)
  /-- Keys increase strictly. -/
  sorted : KeySorted entries
deriving DecidableEq

namespace KeyMap

/-! ### Entry lists -/

/-- Looks a key up in a list of entries. -/
def find? (k : String) : List (String × α) → Option α
  | [] => none
  | (k', v) :: rest => if k' = k then some v else find? k rest

/-- Sets a key in a sorted list of entries. -/
def place (k : String) (v : α) : List (String × α) → List (String × α)
  | [] => [(k, v)]
  | (k', v') :: rest =>
    if k < k' then (k, v) :: (k', v') :: rest
    else if k = k' then (k, v) :: rest
    else (k', v') :: place k v rest

theorem find?_place (k k' : String) (v : α) (l : List (String × α)) :
    find? k' (place k v l) = if k = k' then some v else find? k' l := by
  induction l with
  | nil => simp [place, find?]
  | cons e rest ih =>
    obtain ⟨a, b⟩ := e
    simp only [place]
    split
    · simp [find?]
    · split
      · next h => subst h; simp only [find?]; split <;> rfl
      · next h =>
        simp only [find?, ih]
        by_cases hk : k = k'
        · subst hk; simp [Ne.symm h]
        · simp [hk]

theorem fst_mem_place {k : String} {v : α} {l : List (String × α)} {e : String × α}
    (h : e ∈ place k v l) : e.1 = k ∨ e ∈ l := by
  induction l with
  | nil => simp only [place, List.mem_singleton] at h; exact .inl (by rw [h])
  | cons a rest ih =>
    simp only [place] at h
    split at h
    · rcases List.mem_cons.1 h with rfl | h
      · exact .inl rfl
      · exact .inr h
    · split at h
      · rcases List.mem_cons.1 h with rfl | h
        · exact .inl rfl
        · exact .inr (List.mem_cons_of_mem _ h)
      · rcases List.mem_cons.1 h with rfl | h
        · exact .inr List.mem_cons_self
        · exact (ih h).imp_right (List.mem_cons_of_mem _)

theorem keySorted_place {l : List (String × α)} (h : KeySorted l) (k : String) (v : α) :
    KeySorted (place k v l) := by
  induction l with
  | nil => exact List.pairwise_singleton _ _
  | cons e rest ih =>
    obtain ⟨a, b⟩ := e
    have hrest : KeySorted rest := (List.pairwise_cons.1 h).2
    have hlt : ∀ x ∈ rest, a < x.1 := (List.pairwise_cons.1 h).1
    simp only [place]
    split
    · next hk =>
      refine List.pairwise_cons.2 ⟨fun x hx => ?_, h⟩
      rcases List.mem_cons.1 hx with rfl | hx
      · exact hk
      · exact String.lt_trans hk (hlt x hx)
    · split
      · next hk => subst hk; exact List.pairwise_cons.2 ⟨hlt, hrest⟩
      · next hk hne =>
        refine List.pairwise_cons.2 ⟨fun x hx => ?_, ih hrest⟩
        rcases fst_mem_place hx with hx | hx
        · rw [hx]
          rcases String.le_total a k with h1 | h1
          · exact Std.lt_of_le_of_ne h1 (Ne.symm hne)
          · exact absurd (Std.lt_of_le_of_ne h1 hne) hk
        · exact hlt x hx

theorem find?_eq_none_of_lt {k : String} {l : List (String × α)} (h : ∀ x ∈ l, k < x.1) :
    find? k l = none := by
  induction l with
  | nil => rfl
  | cons e rest ih =>
    have hne : e.1 ≠ k := fun he => String.lt_irrefl k (he ▸ h e List.mem_cons_self)
    simp [find?, hne, ih fun x hx => h x (List.mem_cons_of_mem _ hx)]

/-- Sorted lists of entries with the same look-ups are the same. -/
theorem entries_ext {l l' : List (String × α)} (h : KeySorted l) (h' : KeySorted l')
    (hf : ∀ k, find? k l = find? k l') : l = l' := by
  induction l generalizing l' with
  | nil =>
    cases l' with
    | nil => rfl
    | cons e rest => have := hf e.1; simp [find?] at this
  | cons a rest ih =>
    cases l' with
    | nil => have := hf a.1; simp [find?] at this
    | cons b rest' =>
      obtain ⟨ha, hrest⟩ := List.pairwise_cons.1 h
      obtain ⟨hb, hrest'⟩ := List.pairwise_cons.1 h'
      have hab : a.1 = b.1 := by
        apply Decidable.byContradiction
        intro hne
        rcases String.le_total a.1 b.1 with hle | hle
        · have hlt := Std.lt_of_le_of_ne hle hne
          have hnone : find? a.1 (b :: rest') = none := find?_eq_none_of_lt fun x hx => by
            rcases List.mem_cons.1 hx with rfl | hx
            · exact hlt
            · exact String.lt_trans hlt (hb x hx)
          have := hf a.1
          rw [hnone] at this
          simp [find?] at this
        · have hlt := Std.lt_of_le_of_ne hle (Ne.symm hne)
          have hnone : find? b.1 (a :: rest) = none := find?_eq_none_of_lt fun x hx => by
            rcases List.mem_cons.1 hx with rfl | hx
            · exact hlt
            · exact String.lt_trans hlt (ha x hx)
          have := hf b.1
          rw [hnone] at this
          simp [find?] at this
      have hv : a.2 = b.2 := by
        have := hf a.1
        simpa [find?, hab] using this
      have : a = b := Prod.ext hab hv
      subst this
      congr 1
      refine ih hrest hrest' fun k => ?_
      have := hf k
      by_cases hk : a.1 = k
      · subst hk
        rw [find?_eq_none_of_lt ha, find?_eq_none_of_lt hb]
      · simpa [find?, hk] using this

/-! ### The map -/

/-- The map without entries. -/
def empty : KeyMap α := ⟨[], List.Pairwise.nil⟩

instance : EmptyCollection (KeyMap α) := ⟨empty⟩

instance : Inhabited (KeyMap α) := ⟨∅⟩

/-- The value of a key, if it has one. -/
def get? (m : KeyMap α) (k : String) : Option α := find? k m.entries

/-- Whether the map has no entry. -/
def isEmpty (m : KeyMap α) : Bool := m.entries.isEmpty

/-- The map in which `k` has the value `v` and all else is as before. -/
def insert (m : KeyMap α) (k : String) (v : α) : KeyMap α :=
  ⟨place k v m.entries, keySorted_place m.sorted k v⟩

/-- The part of the map whose entries satisfy `p`. -/
def filter (m : KeyMap α) (p : String → α → Bool) : KeyMap α :=
  ⟨m.entries.filter fun e => p e.1 e.2, List.Pairwise.filter _ m.sorted⟩

/-- The map in which `k` has no value and all else is as before. -/
def erase (m : KeyMap α) (k : String) : KeyMap α := m.filter fun k' _ => k' != k

/-- The map of a list of entries; of two entries of one key the later counts. -/
def ofList (l : List (String × α)) : KeyMap α := l.foldl (fun m e => m.insert e.1 e.2) ∅

/-- Maps that look up alike are equal. -/
theorem ext {m m' : KeyMap α} (h : ∀ k, m.get? k = m'.get? k) : m = m' := by
  obtain ⟨l, hl⟩ := m
  obtain ⟨l', hl'⟩ := m'
  have : l = l' := entries_ext hl hl' h
  subst this
  rfl

@[simp] theorem get?_empty (k : String) : (∅ : KeyMap α).get? k = none := rfl

theorem get?_insert (m : KeyMap α) (k k' : String) (v : α) :
    (m.insert k v).get? k' = if k = k' then some v else m.get? k' :=
  find?_place k k' v m.entries

theorem find?_filter_key (q : String → Bool) (k : String) (l : List (String × α)) :
    find? k (l.filter fun e => q e.1) = if q k then find? k l else none := by
  induction l with
  | nil => simp [find?]
  | cons e rest ih =>
    by_cases hq : q e.1
    · simp only [List.filter_cons, hq, if_true, find?, ih]
      by_cases he : e.1 = k
      · subst he; simp [hq]
      · simp [he]
    · simp only [List.filter_cons, hq, Bool.false_eq_true, if_false, ih, find?]
      by_cases he : e.1 = k
      · subst he; simp [hq]
      · simp [he]

theorem get?_erase (m : KeyMap α) (k k' : String) :
    (m.erase k).get? k' = if k = k' then none else m.get? k' := by
  have := find?_filter_key (fun x => x != k) k' m.entries
  simp only [get?, erase, filter, this, bne_iff_ne, ne_eq]
  by_cases h : k = k'
  · simp [h]
  · simp [h, Ne.symm h]

theorem get?_filter {m : KeyMap α} {p : String → α → Bool} {k : String} :
    (m.filter p).get? k = (m.get? k).filter (p k) := by
  obtain ⟨l, hl⟩ := m
  simp only [get?, filter]
  induction l with
  | nil => rfl
  | cons e rest ih =>
    obtain ⟨hlt, hrest⟩ := List.pairwise_cons.1 hl
    have ih := ih hrest
    by_cases he : e.1 = k
    · subst he
      by_cases hp : p e.1 e.2
      · simp [find?, hp, Option.filter]
      · have hn : find? e.1 (rest.filter fun e => p e.1 e.2) = none :=
          find?_eq_none_of_lt fun x hx => hlt x (List.mem_filter.1 hx).1
        simp [hp, hn, find?, Option.filter]
    · by_cases hp : p e.1 e.2
      · simp [find?, hp, he, ih]
      · simp [hp, he, ih, find?]

@[simp] theorem ofList_nil : ofList ([] : List (String × α)) = ∅ := rfl

theorem ofList_concat (l : List (String × α)) (e : String × α) :
    ofList (l ++ [e]) = (ofList l).insert e.1 e.2 := by
  simp [ofList]

/-- A key placed behind all others goes to the end. -/
theorem place_of_forall_lt {l : List (String × α)} {k : String} (v : α)
    (h : ∀ x ∈ l, x.1 < k) : place k v l = l ++ [(k, v)] := by
  induction l with
  | nil => rfl
  | cons e rest ih =>
    have he : e.1 < k := h e List.mem_cons_self
    have h1 : ¬ k < e.1 := fun h' => String.lt_irrefl _ (String.lt_trans he h')
    have h2 : k ≠ e.1 := fun h' => String.lt_irrefl k (h' ▸ he)
    simp [place, h1, h2, ih fun x hx => h x (List.mem_cons_of_mem _ hx)]

/-- Sorted entries are kept as they are. -/
theorem entries_ofList_of_sorted {l : List (String × α)} (h : KeySorted l) :
    (ofList l).entries = l := by
  suffices ∀ (pre rest : List (String × α)) (m : KeyMap α), m.entries = pre →
      KeySorted (pre ++ rest) →
      (rest.foldl (fun m e => m.insert e.1 e.2) m).entries = pre ++ rest from
    this [] l ∅ rfl h
  intro pre rest
  induction rest generalizing pre with
  | nil => intro m hm _; simpa using hm
  | cons e rest ih =>
    intro m hm hs
    have hlt : ∀ x ∈ pre, x.1 < e.1 := fun x hx =>
      (List.pairwise_append.1 hs).2.2 x hx e List.mem_cons_self
    have hplace : (m.insert e.1 e.2).entries = pre ++ [e] := by
      simp only [insert, hm]
      exact place_of_forall_lt e.2 hlt
    have := ih (pre ++ [e]) (m.insert e.1 e.2) hplace (by simpa using hs)
    simpa using this

/-- A map is the map of its own entries. -/
theorem ofList_entries (m : KeyMap α) : ofList m.entries = m := by
  obtain ⟨l, hl⟩ := m
  have := entries_ofList_of_sorted hl
  cases h : ofList l
  simp_all

end KeyMap

end SessionLedger
