import SessionLedger.Instant.Text
import SessionLedger.Proofs.CalendarDays

/-!
# Instants and their written form

The lenient reader takes what the writer writes: the written form of an instant is read as that
instant, for every year, every nanosecond and every leap second.

The written form is read part by part. Each lemma on a part says what is read there when the text of
the part stands before some rest, and that the rest is left over. The reader passes over blanks, so
a part has to begin with something else, and a run of digits has to end: after two or four digits
since no more are read, elsewhere since no digit follows.

## Main definitions

* `Instant.DigitRun` — a run of digits and its number
* `Instant.EndsRun` — a text that a run of digits ends at

## Main results

* `Instant.number_run` — a run of digits is read as its number
* `Instant.read_write` — the written form of an instant is read as that instant
* `Instant.write_injective` — different instants are written differently
-/

namespace SessionLedger

namespace Instant

open Text (paddedDigits dropBlanks)

/-! ### Runs of digits -/

/-- The text consists of digits, and stands for the number. -/
structure DigitRun (ds : List Char) (n : Nat) : Prop where
  isDigit : ∀ c ∈ ds, c.isDigit = true
  value : Nat.ofDigitChars 10 ds 0 = n
  ne_nil : ds ≠ []

/-- The text does not begin with a digit. -/
def EndsRun (cs : List Char) : Prop := ∀ c ∈ cs.head?, Text.digit? c = none

theorem endsRun_cons {c : Char} (h : Text.digit? c = none) (cs : List Char) :
    EndsRun (c :: cs) := by
  intro d hd
  cases hd
  exact h

theorem digit?_of_isDigit {c : Char} (h : c.isDigit = true) :
    Text.digit? c = some (c.toNat - '0'.toNat) := by
  have hc : '0' ≤ c ∧ c ≤ '9' := by
    simpa [Char.isDigit, Char.le_def] using h
  simp only [Text.digit?, if_pos hc]

theorem isBlank_of_isDigit {c : Char} (h : c.isDigit = true) : Text.isBlank c = false := by
  have hc : 48 ≤ c.toNat ∧ c.toNat ≤ 57 := by
    simpa [Char.isDigit, UInt32.le_iff_toNat_le] using h
  simp only [Text.isBlank, Bool.or_eq_false_iff, Bool.and_eq_false_iff, decide_eq_false_iff_not,
    beq_eq_false_iff_ne]
  omega

theorem ofDigitChars_replicate_zero (k : Nat) (ds : List Char) :
    Nat.ofDigitChars 10 (List.replicate k '0' ++ ds) 0 = Nat.ofDigitChars 10 ds 0 := by
  induction k with
  | zero => rfl
  | succ k ih =>
    rw [List.replicate_succ, List.cons_append, Nat.ofDigitChars_cons]
    exact ih

/-- A number filled up with zeros is a run of digits. -/
theorem digitRun_padded (width n : Nat) : DigitRun (paddedDigits width n) n where
  isDigit := by
    intro c hc
    rw [paddedDigits, List.mem_append] at hc
    rcases hc with hc | hc
    · rw [List.eq_of_mem_replicate hc]
      rfl
    · exact Nat.isDigit_of_mem_toDigits (by decide) (by decide) hc
  value := by
    rw [paddedDigits, ofDigitChars_replicate_zero]
    exact Nat.ofDigitChars_toDigits (by decide) (by decide)
  ne_nil := by
    have hpos : 0 < (Nat.toDigits 10 n).length := Nat.length_toDigits_pos
    intro hnil
    simp only [paddedDigits, List.append_eq_nil_iff] at hnil
    rw [hnil.2] at hpos
    exact absurd hpos (by decide)

theorem length_paddedDigits {width n : Nat} (hwidth : 0 < width) (hn : n < Nat.pow 10 width) :
    (paddedDigits width n).length = width := by
  have hle : (Nat.toDigits 10 n).length ≤ width :=
    (Nat.length_toDigits_le_iff (by decide) hwidth).mpr hn
  simp only [paddedDigits, List.length_append, List.length_replicate]
  omega

/-- Reading on in a run of digits only adds to the number. -/
theorem le_ofDigitChars (ds : List Char) (v : Nat) : v ≤ Nat.ofDigitChars 10 ds v := by
  induction ds generalizing v with
  | nil => exact Nat.le_refl v
  | cons c ds ih =>
    rw [Nat.ofDigitChars_cons]
    have := ih (10 * v + (c.toNat - '0'.toNat))
    omega

/-- Reading on in a run of digits, up to the width or to the end of the run. -/
theorem digitsFrom_run {ds : List Char} (hds : ∀ c ∈ ds, c.isDigit = true) {v width : Nat}
    {rest : List Char} (hmax : Nat.ofDigitChars 10 ds v ≤ numberMax)
    (hend : ds.length = width ∨ ds.length ≤ width ∧ EndsRun rest) :
    digitsFrom v width (ds ++ rest) = .ok (Nat.ofDigitChars 10 ds v, rest) := by
  induction ds generalizing v width with
  | nil =>
    rcases hend with rfl | ⟨-, hstop⟩
    · rfl
    · cases width with
      | zero => rfl
      | succ width =>
        cases rest with
        | nil => rfl
        | cons c rest =>
          have hc : Text.digit? c = none := hstop c rfl
          simp [digitsFrom, hc]
  | cons c ds ih =>
    obtain ⟨hc, hds⟩ := List.forall_mem_cons.mp hds
    cases width with
    | zero => simp at hend
    | succ width =>
      rw [Nat.ofDigitChars_cons, Nat.mul_comm 10 v] at hmax ⊢
      have hnext : v * 10 + (c.toNat - '0'.toNat) ≤ numberMax :=
        Nat.le_trans (le_ofDigitChars ds _) hmax
      have hend : ds.length = width ∨ ds.length ≤ width ∧ EndsRun rest := by
        simpa using hend
      simp only [List.cons_append, digitsFrom, digit?_of_isDigit hc, if_pos hnext]
      exact ih hds hmax hend

/-- **A run of digits is read as its number**, if it is as long as it may be or ends there. -/
theorem number_run {ds : List Char} {n width : Nat} (h : DigitRun ds n) (hmax : n ≤ numberMax)
    {rest : List Char} (hend : ds.length = width ∨ ds.length ≤ width ∧ EndsRun rest) :
    number width (ds ++ rest) = .ok (n, rest) := by
  have hrun : digitsFrom 0 width (ds ++ rest) = .ok (n, rest) := by
    rw [digitsFrom_run h.isDigit (by rw [h.value]; exact hmax) hend, h.value]
  obtain ⟨c, ds, rfl⟩ := List.exists_cons_of_ne_nil h.ne_nil
  have hc : (Text.digit? c).isSome = true := by
    rw [digit?_of_isDigit (h.isDigit c (by simp))]
    rfl
  rw [List.cons_append] at hrun ⊢
  rw [number, if_pos hc, hrun]

/-- No blank stands before a run of digits. -/
theorem dropBlanks_run {ds : List Char} {n : Nat} (h : DigitRun ds n) (rest : List Char) :
    dropBlanks (ds ++ rest) = ds ++ rest := by
  obtain ⟨c, ds, rfl⟩ := List.exists_cons_of_ne_nil h.ne_nil
  exact Text.dropBlanks_cons_of_not_blank (isBlank_of_isDigit (h.isDigit c (by simp))) _

/-! ### The parts of an instant -/

/-- Two digits of a number in range. -/
theorem numberIn_padded {low high n : Nat} (hlow : low ≤ n) (hhigh : n ≤ high) (hn : n < 100)
    (rest : List Char) : numberIn low high (paddedDigits 2 n ++ rest) = .ok (n, rest) := by
  have hrun := digitRun_padded 2 n
  have hlength : (paddedDigits 2 n).length = 2 := length_paddedDigits (by decide) hn
  have hread : number 2 (paddedDigits 2 n ++ rest) = .ok (n, rest) :=
    number_run hrun (by simp only [numberMax]; omega) (.inl hlength)
  simp [numberIn, dropBlanks_run hrun, hread, hlow, hhigh, bind, Except.bind]

theorem mark_cons {m : Char} (h : Text.isBlank m = false) (rest : List Char) :
    mark m (m :: rest) = .ok ((), rest) := by
  simp [mark, Text.dropBlanks_cons_of_not_blank h]

/-- A run of digits does not begin with a sign. -/
theorem append_ne_cons {ds : List Char} {n : Nat} (h : DigitRun ds n) {c : Char}
    (hc : c.isDigit = false) {rest tail : List Char} : ds ++ rest ≠ c :: tail := by
  obtain ⟨d, ds, rfl⟩ := List.exists_cons_of_ne_nil h.ne_nil
  intro heq
  have hd : d.isDigit = true := h.isDigit d (by simp)
  rw [(List.cons.inj heq).1, hc] at hd
  exact Bool.noConfusion hd

/-- A written year, with or without its sign. -/
theorem year_writeYear {y : Int} (hlow : -2147483648 ≤ y) (hhigh : y ≤ 2147483647)
    (rest : List Char) : year (writeYear y ++ '-' :: rest) = .ok (y, '-' :: rest) := by
  have hrun := digitRun_padded 4 y.natAbs
  have hmax : y.natAbs ≤ numberMax := by
    simp only [numberMax]
    omega
  by_cases hplain : 0 ≤ y ∧ y ≤ 9999
  · have hlength : (paddedDigits 4 y.natAbs).length = 4 :=
      length_paddedDigits (by decide) (show y.natAbs < 10000 by omega)
    have hread : number 4 (paddedDigits 4 y.natAbs ++ '-' :: rest) = .ok (y.natAbs, '-' :: rest) :=
      number_run hrun hmax (.inl hlength)
    have hvalue : (y.natAbs : Int) = y := by omega
    simp only [writeYear, if_pos hplain, year, dropBlanks_run hrun]
    split
    · next heq => exact absurd heq (append_ne_cons hrun rfl)
    · next heq => exact absurd heq (append_ne_cons hrun rfl)
    · simp [hread, hvalue, bind, Except.bind, pure, Except.pure, hlow, hhigh]
  · -- a signed year takes as many digits as there are, up to the mark
    have hread : number (paddedDigits 4 y.natAbs ++ '-' :: rest).length
        (paddedDigits 4 y.natAbs ++ '-' :: rest) = .ok (y.natAbs, '-' :: rest) :=
      number_run hrun hmax (.inr ⟨by simp, endsRun_cons rfl rest⟩)
    by_cases hneg : y < 0
    · have hwrite : writeYear y = '-' :: paddedDigits 4 y.natAbs := by
        simp only [writeYear, if_neg hplain, if_pos hneg]
      have hblank : Text.isBlank '-' = false := rfl
      have hvalue : -(y.natAbs : Int) = y := by omega
      simp only [hwrite, List.cons_append, year, Text.dropBlanks_cons_of_not_blank hblank, hread,
        bind, Except.bind, pure, Except.pure, hvalue]
      rw [if_pos ⟨hlow, hhigh⟩]
    · have hwrite : writeYear y = '+' :: paddedDigits 4 y.natAbs := by
        simp only [writeYear, if_neg hplain, if_neg hneg]
      have hblank : Text.isBlank '+' = false := rfl
      have hvalue : (y.natAbs : Int) = y := by omega
      simp only [hwrite, List.cons_append, year, Text.dropBlanks_cons_of_not_blank hblank, hread,
        bind, Except.bind, pure, Except.pure, hvalue]
      rw [if_pos ⟨hlow, hhigh⟩]

/-- The decimal places of a second. -/
theorem fraction_places {nanos k v : Nat} (hk : 0 < k) (hk9 : k ≤ 9) (hv : v < Nat.pow 10 k)
    (hnanos : v * Nat.pow 10 (9 - k) = nanos) :
    fraction ('.' :: paddedDigits k v ++ ['Z']) = .ok (nanos, ['Z']) := by
  have hlength : (paddedDigits k v).length = k := length_paddedDigits hk hv
  have hmax : v ≤ numberMax := by
    have hpow : Nat.pow 10 k ≤ Nat.pow 10 9 := Nat.pow_le_pow_right (by decide) hk9
    have hnine : Nat.pow 10 9 ≤ numberMax := by decide
    omega
  have hread : number 9 (paddedDigits k v ++ ['Z']) = .ok (v, ['Z']) :=
    number_run (digitRun_padded k v) hmax (.inr ⟨by omega, endsRun_cons rfl []⟩)
  have hplaces : (paddedDigits k v ++ ['Z']).length - ['Z'].length = k := by simp [hlength]
  have hrest : ['Z'].dropWhile (fun c => (Text.digit? c).isSome) = ['Z'] := rfl
  simp only [List.cons_append, fraction, hread, bind, Except.bind, hplaces, hnanos, hrest]

theorem fraction_writeFraction {nanos : Nat} (h : nanos < nanosPerSecond) :
    fraction (writeFraction nanos ++ ['Z']) = .ok (nanos, ['Z']) := by
  simp only [nanosPerSecond] at h
  unfold writeFraction
  split
  · next hzero => rw [hzero]; rfl
  · split
    · exact fraction_places (by decide) (by decide) (show nanos / 1000000 < 1000 by omega)
        (show nanos / 1000000 * 1000000 = nanos by omega)
    · split
      · exact fraction_places (by decide) (by decide) (show nanos / 1000 < 1000000 by omega)
          (show nanos / 1000 * 1000 = nanos by omega)
      · exact fraction_places (by decide) (by decide) h (show nanos * 1 = nanos by omega)

/-! ### The instant of its parts -/

/-- The parts of an instant make that instant. -/
theorem ofParts?_eq (t : Instant) : ofParts? t.day t.second t.nanos = some t :=
  dif_pos ⟨⟨t.day_ge, t.day_le⟩, ⟨t.second_lt, t.nanos_lt⟩, t.leap⟩

/-- The date and the time of day, without an offset. -/
theorem ofLocal_dateOf (t : Instant) :
    ofLocal (Calendar.dateOf t.day) t.second t.nanos 0 = .ok t := by
  obtain ⟨hday, hday', hsecond⟩ := And.intro t.day_ge (And.intro t.day_le t.second_lt)
  have hvalid :
      ¬ (¬ Calendar.Valid (Calendar.dateOf t.day) ∨ t.day < firstDay ∨ lastDay < t.day) := by
    have hdate := Calendar.valid_dateOf t.day
    rintro (h | h | h)
    · exact h hdate
    · omega
    · omega
  have hdays : ((t.second : Int) - 0).fdiv 86400 = 0 := by
    rw [Int.fdiv_eq_ediv_of_nonneg _ (by omega)]
    omega
  have hrest : (((t.second : Int) - 0).emod 86400).toNat = t.second := by
    have hmod : ((t.second : Int) - 0).emod 86400 = ((t.second : Int) - 0) % 86400 := rfl
    omega
  simp only [ofLocal, Calendar.dayNumber_dateOf, if_neg hvalid, hdays, hrest, Int.add_zero,
    ofParts?_eq]
  rfl

/-- The year of an instant keeps to the numbers that are read as years. -/
theorem year_mem (t : Instant) :
    -2147483648 ≤ (Calendar.dateOf t.day).year ∧ (Calendar.dateOf t.day).year ≤ 2147483647 := by
  obtain ⟨hlow, hhigh⟩ := Calendar.year_dateOf t.day
  obtain ⟨hday, hday'⟩ := And.intro t.day_ge t.day_le
  simp only [firstDay, lastDay] at hday hday'
  omega

/-- The parts of the written form, read one after the other. A leap second is shown as second 60 of
its minute. -/
theorem readChars_of_shown (t : Instant) {shown nanos : Nat} (hshown : shown ≤ 60)
    (hnanos : nanos < nanosPerSecond)
    (hparts : (if shown = 60 then (59, nanos + nanosPerSecond) else (shown, nanos)) =
      (t.second % 60, t.nanos)) :
    readChars (writeYear (Calendar.dateOf t.day).year ++
      '-' :: (paddedDigits 2 (Calendar.dateOf t.day).month ++
      '-' :: (paddedDigits 2 (Calendar.dateOf t.day).day ++
      'T' :: (paddedDigits 2 (t.second / 3600) ++
      ':' :: (paddedDigits 2 (t.second / 60 % 60) ++
      ':' :: (paddedDigits 2 shown ++ (writeFraction nanos ++ ['Z']))))))) = .ok t := by
  obtain ⟨hlow, hhigh⟩ := t.year_mem
  obtain ⟨hmonth, hmonth', hday, hlength⟩ := Calendar.valid_dateOf t.day
  have hday' : (Calendar.dateOf t.day).day ≤ 31 :=
    Nat.le_trans hlength (Calendar.daysInMonth_le _ _)
  have hsecond := t.second_lt
  have hhour : t.second / 3600 ≤ 23 := by omega
  have hminute : t.second / 60 % 60 ≤ 59 := by omega
  have hclock : t.second / 3600 * 3600 + t.second / 60 % 60 * 60 + t.second % 60 = t.second := by
    omega
  -- every part stands where the reader looks for it
  have hreadMonth := numberIn_padded hmonth hmonth' (by omega)
  have hreadDay := numberIn_padded hday hday' (by omega)
  have hreadHour := numberIn_padded (Nat.zero_le _) hhour (by omega)
  have hreadMinute := numberIn_padded (Nat.zero_le _) hminute (by omega)
  have hreadSecond := numberIn_padded (Nat.zero_le _) hshown (by omega)
  have hhyphen := mark_cons (m := '-') rfl
  have hcolon := mark_cons (m := ':') rfl
  have hseparator : ∀ cs, separator ('T' :: cs) = .ok ((), cs) := fun _ => rfl
  have hoffset : offset (dropBlanks ['Z']) = .ok (0, []) := rfl
  have hdone : ¬ dropBlanks [] ≠ [] := fun h => h rfl
  simp only [readChars, bind, Except.bind, year_writeYear hlow hhigh, hhyphen, hreadMonth, hreadDay,
    hseparator, hreadHour, hcolon, hreadMinute, hreadSecond, fraction_writeFraction hnanos, hoffset,
    if_neg hdone, hparts, hclock]
  exact ofLocal_dateOf t

/-- The characters of the written form. -/
theorem readChars_writeChars (t : Instant) : readChars t.writeChars = .ok t := by
  have hsecond := t.second_lt
  have hnanos := t.nanos_lt
  have hleap := t.leap
  simp only [writeChars, List.append_assoc, List.cons_append]
  by_cases hl : nanosPerSecond ≤ t.nanos
  · simp only [if_pos hl]
    have hlast := hleap hl
    refine readChars_of_shown t (by omega) (by omega) ?_
    rw [if_pos (by omega), hlast, Nat.sub_add_cancel hl]
  · simp only [if_neg hl]
    refine readChars_of_shown t (by omega) (by omega) ?_
    rw [if_neg (by omega)]

/-! ### The whole text -/

/-- **The written form of an instant is read as that instant.** -/
theorem read_write (t : Instant) : read t.write = .ok t := by
  rw [read, write, String.toList_ofList]
  exact readChars_writeChars t

/-- Different instants are written differently. -/
theorem write_injective : Function.Injective write := by
  intro t u h
  have hread : read t.write = .ok u := by
    rw [h, read_write]
  rw [read_write] at hread
  exact Except.ok.inj hread

end Instant

end SessionLedger
