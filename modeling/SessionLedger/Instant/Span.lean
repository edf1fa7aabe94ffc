import SessionLedger.Instant.Basic

/-!
# Spans of time

How far one instant lies from another, in whole seconds. A span is measured in milliseconds of 64
bits, so the number of its seconds is bounded.

## Main definitions

* `Span` — the type
* `Span.ofSeconds?` — the span of a number of seconds, where there is one
* `Instant.after` — the instant a span later, where it is in the range of instants

## Main results

* `Instant.bind_after` — no instant is so far from another that a span could not tell
-/

namespace SessionLedger

/-- The seconds of the longest span: as many as have a number of milliseconds of 64 bits. -/
def Span.maxSeconds : Nat := 9223372036854775

/-- A span of whole seconds, forwards or backwards. -/
structure Span where
  seconds : Int
  natAbs_le : seconds.natAbs ≤ Span.maxSeconds
deriving DecidableEq, Repr

/-- The span of a number of seconds, where it is not too long. -/
def Span.ofSeconds? (seconds : Int64) : Option Span :=
  if h : seconds.toInt.natAbs ≤ maxSeconds then some ⟨seconds.toInt, h⟩ else none

namespace Instant

/-- The instant a span later, where it is in the range of instants. -/
def after (t : Instant) (span : Span) : Option Instant := t.addSeconds span.seconds

/-- Where no span is long enough, the range of instants has been left long ago. -/
theorem addSeconds_eq_none {t : Instant} {seconds : Int} (h : Span.maxSeconds < seconds.natAbs) :
    t.addSeconds seconds = none := by
  have hne : seconds ≠ 0 := by rintro rfl; exact absurd h (by decide)
  have hday := t.day_ge
  have hday' := t.day_le
  have hsecond := t.second_lt
  have hstart : (t.spanStart seconds).1 = t.second ∨ (t.spanStart seconds).1 = t.second + 1 := by
    rw [spanStart]
    split
    · split
      · exact .inl rfl
      · exact .inr rfl
    · exact .inl rfl
  have hfdiv : ((t.spanStart seconds).1 + seconds).fdiv 86400 =
      ((t.spanStart seconds).1 + seconds) / 86400 := Int.fdiv_eq_ediv_of_nonneg _ (by omega)
  simp only [addSeconds, if_neg hne, hfdiv]
  refine ofParts?_eq_none ?_
  simp only [Span.maxSeconds, firstDay, lastDay] at h hday hday' ⊢
  omega

/-- No instant is so far from another that a span could not tell: to go by a span where there is
one is to go by its seconds. -/
@[simp] theorem bind_after (t : Instant) (seconds : Int64) :
    (Span.ofSeconds? seconds).bind t.after = t.addSeconds seconds.toInt := by
  rw [Span.ofSeconds?]
  split
  · rfl
  · next h => rw [addSeconds_eq_none (Nat.not_le.mp h), Option.bind_none]

end Instant

end SessionLedger
