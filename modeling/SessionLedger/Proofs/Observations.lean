import SessionLedger.Telemetry.Histogram
import Mathlib.Data.List.Induction
import Mathlib.Tactic.Common

/-!
# What a histogram tells of its observations

A histogram looks for the first bound that is not below an observation, and takes the last bucket if
there is none. Because the bounds increase, what it finds can be said without a search: an
observation belongs between two neighbouring bounds, the first bucket begins at 0 and the last has
no end. So every observation belongs into one bucket, and a histogram depends on what was observed
and not on the order.

All three kinds of numbers are counted in 64 bits. What is said of them here is said of the exact
numbers, taken modulo `2 ^ 64`.

## Main definitions

* `Histogram.belongs` — whether a value belongs into the bucket at a place
* `Histogram.ofObservations` — the histogram of some observations
* `Histogram.Records` — what a histogram tells of its observations

## Main results

* `Histogram.countIn_eq` — what the search for a bucket comes to
* `Histogram.Records.observe` — one more observation is recorded
* `Histogram.accounts_once` — each observation is accounted for once, in any order
-/

namespace SessionLedger

namespace Histogram

variable {n bound : UInt64} {bounds : List UInt64} {buckets : List (UInt64 × UInt64)} {i : Nat}
  {h h' : Histogram} {observations observations' : List UInt64}

/-! ### Where a value belongs -/

/-- The bound before a place. -/
def floor? (bounds : List UInt64) : Nat → Option UInt64
  | 0 => none
  | i + 1 => bounds[i]?

/-- Whether a value belongs into the bucket at a place: it is greater than the bound before that
place, if there is one, and not greater than the bound at it, unless that is the last. -/
def belongs (bounds : List UInt64) (i : Nat) (n : UInt64) : Bool :=
  (floor? bounds i).all (· < n) && (bounds[i]?.all (n ≤ ·) || bounds.length == i + 1)

theorem belongs_cons_zero (hne : bounds ≠ []) :
    belongs (bound :: bounds) 0 n = decide (n ≤ bound) := by
  simp [belongs, floor?, hne]

theorem belongs_cons_succ (hinc : (bound :: bounds).Pairwise (· < ·)) (hi : i < bounds.length) :
    belongs (bound :: bounds) (i + 1) n = (decide (bound < n) && belongs bounds i n) := by
  have hfloor : (floor? (bound :: bounds) (i + 1)).all (· < n) =
      (decide (bound < n) && (floor? bounds i).all (· < n)) := by
    cases i with
    | zero => simp [floor?]
    | succ i =>
      -- What is greater than a later bound is greater than the one in front.
      have hlt : bound < bounds[i] := (List.pairwise_cons.mp hinc).1 _ (List.getElem_mem _)
      have hpast : bounds[i] < n → bound < n := UInt64.lt_trans hlt
      simpa [floor?, List.getElem?_eq_getElem (Nat.lt_of_succ_lt hi)] using hpast
  simp [belongs, hfloor, Bool.and_assoc]

/-- Among increasing bounds there is one place at which a value belongs. -/
theorem exists_belongs (hinc : bounds.Pairwise (· < ·)) (hne : bounds ≠ []) (n : UInt64) :
    ∃ i, (i < bounds.length ∧ belongs bounds i n = true) ∧
      ∀ j, j < bounds.length → belongs bounds j n = true → j = i := by
  induction bounds with
  | nil => exact absurd rfl hne
  | cons bound bounds ih =>
    by_cases hmore : bounds = []
    · subst hmore
      exact ⟨0, by simp [belongs, floor?], by simp⟩
    · by_cases hn : n ≤ bound
      · refine ⟨0, ⟨Nat.succ_pos _, by simp [belongs_cons_zero hmore, hn]⟩, fun j hj hbelongs => ?_⟩
        cases j with
        | zero => rfl
        | succ j =>
          rw [belongs_cons_succ hinc (Nat.lt_of_succ_lt_succ hj)] at hbelongs
          simp [UInt64.not_lt.mpr hn] at hbelongs
      · obtain ⟨i, ⟨hi, hin⟩, honly⟩ := ih (List.pairwise_cons.mp hinc).2 hmore
        refine ⟨i + 1, ⟨Nat.succ_lt_succ hi, ?_⟩, fun j hj hbelongs => ?_⟩
        · simp [belongs_cons_succ hinc hi, UInt64.not_le.mp hn, hin]
        · cases j with
          | zero => simp [belongs_cons_zero hmore, hn] at hbelongs
          | succ j =>
            have hj' := Nat.lt_of_succ_lt_succ hj
            rw [belongs_cons_succ hinc hj', Bool.and_eq_true] at hbelongs
            rw [honly j hj' hbelongs.2]

/-! ### One observation -/

theorem getElem?_countIn (hinc : (buckets.map (·.1)).Pairwise (· < ·)) (n : UInt64) (i : Nat) :
    (countIn n buckets)[i]? = buckets[i]?.map fun bucket =>
      (bucket.1, bucket.2 + if belongs (buckets.map (·.1)) i n then 1 else 0) := by
  fun_induction countIn n buckets generalizing i with
  | case1 => rfl
  | case2 bound count =>
    cases i with
    | zero => simp [belongs, floor?]
    | succ i => simp
  | case3 bound count rest hrest hle =>
    have hmore : rest.map (·.1) ≠ [] := by simpa using hrest
    rw [List.map_cons] at hinc ⊢
    cases i with
    | zero => simp [belongs_cons_zero hmore, hle]
    | succ i =>
      by_cases hi : i < rest.length
      · simp [belongs_cons_succ hinc (i := i) (by simpa using hi), UInt64.not_lt.mpr hle]
      · simp [hi]
  | case4 bound count rest hrest hgt ih =>
    have hmore : rest.map (·.1) ≠ [] := by simpa using hrest
    rw [List.map_cons] at hinc ⊢
    cases i with
    | zero => simp [belongs_cons_zero hmore, hgt]
    | succ i =>
      rw [List.getElem?_cons_succ, List.getElem?_cons_succ, ih (List.pairwise_cons.mp hinc).2]
      by_cases hi : i < rest.length
      · simp [belongs_cons_succ hinc (i := i) (by simpa using hi), UInt64.not_le.mp hgt]
      · simp [hi]

/-- **What the search for a bucket comes to.** An observation is counted in the bucket into which it
belongs, and in no other. -/
theorem countIn_eq (hinc : (buckets.map (·.1)).Pairwise (· < ·)) (n : UInt64) :
    countIn n buckets = buckets.mapIdx fun i bucket =>
      (bucket.1, bucket.2 + if belongs (buckets.map (·.1)) i n then 1 else 0) :=
  List.ext_getElem? fun i => by rw [getElem?_countIn hinc, List.getElem?_mapIdx]

/-! ### Sums -/

/-- The sum of some numbers of 64 bits, as large as it is. -/
def total (numbers : List UInt64) : Nat := numbers.foldr (fun n rest => n.toNat + rest) 0

theorem ofNat_total_cons (n : UInt64) (numbers : List UInt64) :
    UInt64.ofNat (total (n :: numbers)) = n + UInt64.ofNat (total numbers) := by
  rw [total, List.foldr_cons, UInt64.ofNat_add, UInt64.ofNat_toNat]
  rfl

theorem total_perm {numbers numbers' : List UInt64} (hperm : numbers.Perm numbers') :
    total numbers = total numbers' := by
  induction hperm with
  | nil => rfl
  | cons n _ ih => exact congrArg (n.toNat + ·) ih
  | swap n n' numbers => exact Nat.add_left_comm ..
  | trans _ _ ih ih' => exact ih.trans ih'

/-- An observation adds one to the counts of the buckets. -/
theorem total_countIn (hne : buckets ≠ []) (n : UInt64) :
    UInt64.ofNat (total ((countIn n buckets).map (·.2))) =
      UInt64.ofNat (total (buckets.map (·.2))) + 1 := by
  have hfront : ∀ count rest : UInt64, count + 1 + rest = count + rest + 1 := fun count rest => by
    rw [UInt64.add_assoc, UInt64.add_comm 1, UInt64.add_assoc]
  fun_induction countIn n buckets with
  | case1 => exact absurd rfl hne
  | case2 bound count =>
    rw [List.map_singleton, List.map_singleton, ofNat_total_cons, ofNat_total_cons, hfront]
  | case3 bound count rest hrest hle =>
    rw [List.map_cons, List.map_cons, ofNat_total_cons, ofNat_total_cons, hfront]
  | case4 bound count rest hrest hgt ih =>
    rw [List.map_cons, List.map_cons, ofNat_total_cons, ofNat_total_cons, ih hrest,
      UInt64.add_assoc]

/-! ### Many observations -/

/-- The histogram of some observations. -/
def ofObservations (observations : List UInt64) : Histogram := observations.foldl observe new

/-- What a histogram tells of its observations. -/
structure Records (observations : List UInt64) (h : Histogram) : Prop where
  /-- How many there were. -/
  count : h.count = UInt64.ofNat observations.length
  /-- What they add up to. -/
  sum : h.sum = UInt64.ofNat (total observations)
  /-- How many of them belong into each bucket. -/
  buckets : h.buckets = latencyBounds.mapIdx fun i bound =>
    (bound, UInt64.ofNat (observations.countP (belongs latencyBounds i)))
  /-- The counts of the buckets add up to the number of the observations. -/
  total : UInt64.ofNat (total (h.buckets.map (·.2))) = h.count

theorem increasing_latencyBounds : latencyBounds.Pairwise (· < ·) := by decide

theorem records_new : Records [] new where
  count := rfl
  sum := rfl
  buckets := rfl
  total := rfl

/-- One more observation is recorded. -/
theorem Records.observe (hrec : Records observations h) (n : UInt64) :
    Records (n :: observations) (h.observe n) where
  count := by
    rw [Histogram.observe, hrec.count, List.length_cons, UInt64.ofNat_add]
    rfl
  sum := by
    rw [Histogram.observe, hrec.sum, ofNat_total_cons]
    exact UInt64.add_comm ..
  buckets := by
    have hbounds : h.buckets.map (·.1) = latencyBounds := by
      rw [hrec.buckets]
      rfl
    change countIn n h.buckets = _
    rw [countIn_eq (hbounds ▸ increasing_latencyBounds), hbounds, hrec.buckets, List.mapIdx_mapIdx]
    refine congrArg (List.mapIdx · latencyBounds) (funext fun i => funext fun bound => ?_)
    simp only [Function.comp_apply, List.countP_cons, UInt64.ofNat_add]
    split <;> rfl
  total := by
    have hne : h.buckets ≠ [] := by
      rw [hrec.buckets]
      exact List.cons_ne_nil _ _
    rw [Histogram.observe, total_countIn hne, hrec.total]

/-- The order of the observations is not recorded. -/
theorem Records.perm (hrec : Records observations h) (hperm : observations.Perm observations') :
    Records observations' h where
  count := by rw [hrec.count, hperm.length_eq]
  sum := by rw [hrec.sum, total_perm hperm]
  buckets := by simp only [hrec.buckets, hperm.countP_eq]
  total := hrec.total

/-- What is recorded decides the histogram. -/
theorem Records.unique (hrec : Records observations h) (hrec' : Records observations h') :
    h = h' := by
  have hbuckets := hrec.buckets.trans hrec'.buckets.symm
  have hsum := hrec.sum.trans hrec'.sum.symm
  have hcount := hrec.count.trans hrec'.count.symm
  cases h
  cases h'
  simp_all

theorem records_ofObservations (observations : List UInt64) :
    Records observations (ofObservations observations) := by
  induction observations using List.reverseRecOn with
  | nil => exact records_new
  | append_singleton observations n ih =>
    have hlast :
        ofObservations (observations ++ [n]) = (ofObservations observations).observe n := by
      rw [ofObservations, List.foldl_append]
      rfl
    rw [hlast]
    exact (ih.observe n).perm (List.perm_append_singleton n observations).symm

/-- **Each observation is accounted for once, in any order.** The histogram of some observations
tells how many there were and what they add up to, and of each bucket how many belong into it, each
modulo `2 ^ 64`; and the counts of the buckets add up to the number of the observations. Every value
belongs into one of the buckets. And the same observations in another order have the same
histogram. -/
theorem accounts_once (observations : List UInt64) :
    Records observations (ofObservations observations) ∧
      (∀ n, ∃ i, (i < latencyBounds.length ∧ belongs latencyBounds i n = true) ∧
        ∀ j, j < latencyBounds.length → belongs latencyBounds j n = true → j = i) ∧
      ∀ observations', observations.Perm observations' →
        ofObservations observations' = ofObservations observations := by
  refine ⟨records_ofObservations observations,
    exists_belongs increasing_latencyBounds (List.cons_ne_nil _ _), fun observations' hperm => ?_⟩
  exact (records_ofObservations observations').unique
    ((records_ofObservations observations).perm hperm)

/-- Observations at the bounds and next to them. The last is so large that the sum begins anew. -/
theorem accounts_once_atBounds :
    let observations : List UInt64 := [0, 1, 2, 5, 6, 10000, 10001, 18446744073709551615]
    (ofObservations observations).count = 8 ∧ (ofObservations observations).sum = 20014 ∧
      (ofObservations observations).buckets.map (·.2) = [2, 2, 1, 0, 0, 0, 0, 0, 0, 0, 3] ∧
      observations.Perm observations.reverse ∧
      ofObservations observations.reverse = ofObservations observations := by
  intro observations
  obtain ⟨hrec, -, horder⟩ := accounts_once observations
  have hreverse : observations.Perm observations.reverse := (List.reverse_perm observations).symm
  have hbuckets : (ofObservations observations).buckets.map (·.2) =
      [2, 2, 1, 0, 0, 0, 0, 0, 0, 0, 3] := by
    rw [hrec.buckets]
    rfl
  exact ⟨hrec.count, hrec.sum.trans (by decide), hbuckets, hreverse, horder _ hreverse⟩

end Histogram

end SessionLedger
