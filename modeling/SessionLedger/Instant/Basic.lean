import SessionLedger.Instant.Calendar

/-!
# Instants

An instant of coordinated universal time, to the nanosecond, in the years -262143 to 262142. A
leap second is part of the minute it prolongs: it has the second of that minute's last regular
second and a count of nanoseconds that goes past a thousand million. Instants are ordered as the
clock shows them, so a leap second lies between its minute's last regular second and the next
minute.

## Main definitions

* `Instant` — the type
* `Instant.ticks` — the order of instants as an order of integers
* `Instant.addSeconds` — a span of whole seconds later, where that is an instant

## Main results

* `Instant.ticks_inj` — different instants have different ticks
* `Instant.ticks_lt_ticks_addSeconds` — a positive span leads to a later instant
-/

namespace SessionLedger

/-- The number of the first day, -262143-01-01. -/
def Instant.firstDay : Int := -96465292

/-- The number of the last day, 262142-12-31. -/
def Instant.lastDay : Int := 95026236

/-- The nanoseconds of a regular second. -/
def Instant.nanosPerSecond : Nat := 1000000000

/-- An instant of coordinated universal time. -/
structure Instant where
  /-- Days since 1970-01-01. -/
  day : Int
  /-- Seconds since midnight. -/
  second : Nat
  /-- Nanoseconds since that second began. -/
  nanos : Nat
  day_ge : Instant.firstDay ≤ day := by decide
  day_le : day ≤ Instant.lastDay := by decide
  second_lt : second < 86400 := by decide
  nanos_lt : nanos < 2 * Instant.nanosPerSecond := by decide
  /-- Only the last second of a minute can be prolonged. -/
  leap : Instant.nanosPerSecond ≤ nanos → second % 60 = 59 := by decide
deriving DecidableEq

namespace Instant

/-- Midnight of 1970-01-01. -/
def epoch : Instant where
  day := 0
  second := 0
  nanos := 0

instance : Inhabited Instant := ⟨epoch⟩

/-- Whether the instant lies in a leap second. -/
def isLeap (t : Instant) : Bool := nanosPerSecond ≤ t.nanos

/-- The instant of the given parts, where they make one. -/
def ofParts? (day : Int) (second nanos : Nat) : Option Instant :=
  if h : (firstDay ≤ day ∧ day ≤ lastDay) ∧ (second < 86400 ∧ nanos < 2 * nanosPerSecond) ∧
      (nanosPerSecond ≤ nanos → second % 60 = 59) then
    some ⟨day, second, nanos, h.1.1, h.1.2, h.2.1.1, h.2.1.2, h.2.2⟩
  else none

/-! ### Order -/

/-- A count that orders instants; a second takes two thousand million ticks, so that there is room
for a leap second. -/
def ticks (t : Instant) : Int :=
  (t.day * 86400 + t.second) * (2 * nanosPerSecond) + t.nanos

instance : LE Instant := ⟨fun a b => a.ticks ≤ b.ticks⟩

instance : LT Instant := ⟨fun a b => a.ticks < b.ticks⟩

instance (a b : Instant) : Decidable (a ≤ b) := inferInstanceAs (Decidable (a.ticks ≤ b.ticks))

instance (a b : Instant) : Decidable (a < b) := inferInstanceAs (Decidable (a.ticks < b.ticks))

theorem le_iff {a b : Instant} : a ≤ b ↔ a.ticks ≤ b.ticks := Iff.rfl

theorem lt_iff {a b : Instant} : a < b ↔ a.ticks < b.ticks := Iff.rfl

/-- Different instants have different ticks. -/
theorem ticks_inj {a b : Instant} (h : a.ticks = b.ticks) : a = b := by
  obtain ⟨d, s, n, _, _, hs, hn, _⟩ := a
  obtain ⟨d', s', n', _, _, hs', hn', _⟩ := b
  simp only [ticks, nanosPerSecond] at h hn hn'
  have hd : d = d' := by omega
  have hss : s = s' := by omega
  have hnn : n = n' := by omega
  subst hd hss hnn
  rfl

/-- The later of two instants. -/
def later (a b : Instant) : Instant := if a ≤ b then b else a

/-! ### Moving by whole seconds -/

/-- The second and the nanoseconds from which a span counts. A span other than zero leaves a leap
second: forwards it counts from the regular second that the leap second prolongs, backwards from
the second after it. -/
def spanStart (t : Instant) (seconds : Int) : Int × Nat :=
  if nanosPerSecond ≤ t.nanos ∧ seconds ≠ 0 then
    (if 0 < seconds then (t.second : Int) else t.second + 1, t.nanos - nanosPerSecond)
  else (t.second, t.nanos)

/-- The instant a number of seconds later, where it is in the range of instants. -/
def addSeconds (t : Instant) (seconds : Int) : Option Instant :=
  if seconds = 0 then some t
  else
    let (start, nanos) := t.spanStart seconds
    let total := start + seconds
    ofParts? (t.day + total.fdiv 86400) (total.emod 86400).toNat nanos

theorem ofParts?_eq_some {day : Int} {second nanos : Nat} {t : Instant}
    (h : ofParts? day second nanos = some t) :
    t.day = day ∧ t.second = second ∧ t.nanos = nanos := by
  unfold ofParts? at h
  split at h
  · cases h; exact ⟨rfl, rfl, rfl⟩
  · exact absurd h (by simp)

theorem ofParts?_eq_none {day : Int} {second nanos : Nat} (h : day < firstDay ∨ lastDay < day) :
    ofParts? day second nanos = none := by
  rw [ofParts?, dif_neg]
  omega

theorem exists_ofParts? {day : Int} {second nanos : Nat} (hday : firstDay ≤ day ∧ day ≤ lastDay)
    (hsecond : second < 86400) (hnanos : nanos < nanosPerSecond) :
    ∃ t, ofParts? day second nanos = some t :=
  ⟨_, dif_pos ⟨hday, ⟨hsecond, by omega⟩, fun hle => absurd hle (Nat.not_le.mpr hnanos)⟩⟩

/-- Forwards, a span counts from the second of the instant, be it a leap second or not. -/
theorem addSeconds_of_pos (t : Instant) {seconds : Int} (hpos : 0 < seconds) :
    t.addSeconds seconds = ofParts? (t.day + (t.second + seconds) / 86400)
      ((t.second + seconds) % 86400).toNat (t.nanos % nanosPerSecond) := by
  have hne : seconds ≠ 0 := by omega
  have hnanos := t.nanos_lt
  have hstart : t.spanStart seconds = ((t.second : Int), t.nanos % nanosPerSecond) := by
    rw [spanStart, if_pos hpos]
    split
    · next hleap => rw [Nat.mod_eq_sub_mod hleap.1, Nat.mod_eq_of_lt (by omega)]
    · next hregular => rw [Nat.mod_eq_of_lt (Nat.not_le.mp fun hle => hregular ⟨hle, hne⟩)]
  simp only [addSeconds, if_neg hne, hstart, Int.fdiv_eq_ediv_of_nonneg _
    (show (0 : Int) ≤ 86400 by decide)]
  rfl

/-- A positive span leads to a later instant. -/
theorem ticks_lt_ticks_addSeconds {t u : Instant} {seconds : Int} (hpos : 0 < seconds)
    (h : t.addSeconds seconds = some u) : t.ticks < u.ticks := by
  rw [addSeconds_of_pos t hpos] at h
  obtain ⟨hday, hsecond, hnanos⟩ := ofParts?_eq_some h
  have hbound := t.nanos_lt
  simp only [ticks, hday, hsecond, hnanos, nanosPerSecond] at hbound ⊢
  omega

end Instant

end SessionLedger
