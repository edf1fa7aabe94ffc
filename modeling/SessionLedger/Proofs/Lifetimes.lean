import SessionLedger.Proofs.Harmless
import SessionLedger.Proofs.Usability

/-!
# Lifetimes

A session's lifetime is stored as a number of seconds and counts from the time of the event that
sets it. It ends at an instant, unless the range of instants ends before; no lifetime that passes
validation is too long to be counted. And the session lives just until there: a lifetime is never
over at the moment at which it is set, not even in a leap second, from which it counts as from the
second before.

## Main definitions

* `Instant.last` — the last instant of the range
* `Instant.elapsed` — the time since 1970, on a clock that has no leap seconds
* `Event.lifetimeEnd` — where the lifetime ends that an event sets, on that clock

## Main results

* `Instant.elapsed_addSeconds` — to go forwards by a span moves that clock by as much
* `Instant.addSeconds_eq_none_iff` — only past the last instant is there none
* `Model.apply_lifetime` — what an event that sets a lifetime does to a model
* `Model.lifetime_exact` — lifetimes are exact up to the last instant
-/

namespace SessionLedger

/-! ### A clock without leap seconds -/

namespace Instant

variable {t u : Instant} {span : Int}

/-- The last instant, 262142-12-31T23:59:59.999999999. -/
def last : Instant := (ofParts? lastDay 86399 999999999).get (by decide)

/-- The nanoseconds since 1970, on a clock that has no leap seconds: in one, it shows once more the
second that is prolonged. -/
def elapsed (t : Instant) : Int := t.seconds * nanosPerSecond + (t.nanos % nanosPerSecond : Nat)

theorem elapsed_last : last.elapsed = lastSecond * nanosPerSecond + 999999999 := by decide

theorem elapsed_le_last (t : Instant) : t.elapsed ≤ last.elapsed := by
  have hday := t.day_le
  have hsecond := t.second_lt
  rw [elapsed_last]
  simp only [elapsed, seconds, lastSecond, nanosPerSecond]
  omega

/-- Outside of leap seconds the clock orders instants as they are ordered. -/
theorem le_iff_elapsed_le (ht : t.isLeap = false) (hu : u.isLeap = false) :
    t ≤ u ↔ t.elapsed ≤ u.elapsed := by
  rw [isLeap, decide_eq_false_iff_not, Nat.not_le] at ht hu
  rw [le_iff, elapsed, elapsed, Nat.mod_eq_of_lt ht, Nat.mod_eq_of_lt hu]
  simp only [ticks, seconds, nanosPerSecond] at ht hu ⊢
  omega

/-- To go forwards by a span moves the clock by as much, and leads out of a leap second. -/
theorem elapsed_addSeconds (hpos : 0 < span) (h : t.addSeconds span = some u) :
    u.elapsed = t.elapsed + span * nanosPerSecond ∧ u.isLeap = false := by
  rw [addSeconds_of_pos t hpos] at h
  obtain ⟨hday, hsecond, hnanos⟩ := ofParts?_eq_some h
  constructor
  · simp only [elapsed, seconds, hday, hsecond, hnanos, nanosPerSecond]
    omega
  · rw [isLeap, hnanos, decide_eq_false_iff_not, Nat.not_le]
    exact Nat.mod_lt _ (by decide)

/-- Only past the last instant is there none. -/
theorem addSeconds_eq_none_iff (hpos : 0 < span) :
    t.addSeconds span = none ↔ last.elapsed < t.elapsed + span * nanosPerSecond := by
  constructor
  · intro hnone
    by_contra hle
    have hlast : t.seconds + span ≤ lastSecond := by
      rw [elapsed_last] at hle
      simp only [elapsed, seconds, lastSecond, nanosPerSecond] at hle ⊢
      omega
    obtain ⟨u, hu⟩ := exists_addSeconds hpos hlast
    rw [hnone] at hu
    cases hu
  · intro hlt
    rw [Option.eq_none_iff_forall_not_mem]
    intro u hu
    have hend := (elapsed_addSeconds hpos hu).1
    have hle := u.elapsed_le_last
    omega

end Instant

/-! ### Seconds as spans -/

theorem Span.exists_ofSeconds? {seconds : Int64} (h : seconds.toInt.natAbs ≤ maxSeconds) :
    ∃ span, ofSeconds? seconds = some span ∧ span.seconds = seconds.toInt :=
  ⟨_, dif_pos h, rfl⟩

/-- The lifetimes that validation admits are spans, and positive. -/
theorem SessionEvent.exists_span {seconds : Int64} (h : (lifetimeSet seconds).faults = []) :
    0 < seconds.toInt ∧
      ∃ span, Span.ofSeconds? seconds = some span ∧ span.seconds = seconds.toInt := by
  obtain ⟨hmin, hmax⟩ := lifetime_mem h
  simp only [Limits.lifetimeSeconds] at hmax
  have hspan : seconds.toInt.natAbs ≤ Span.maxSeconds := by
    rw [Span.maxSeconds]
    omega
  exact ⟨by omega, Span.exists_ofSeconds? hspan⟩

/-! ### Models -/

/-- Where a lifetime ends that begins with the event, on a clock that has no leap seconds. -/
def Event.lifetimeEnd (stored : Event) (seconds : Int64) : Int :=
  stored.createdAt.elapsed + seconds.toInt * Instant.nanosPerSecond

namespace Model

variable {m : Model} {stored : Event} {seconds : Int64}

/-- The model with another expiration. -/
def expiringAt (m : Model) (expiration : Instant) : Model :=
  { m with facts := { m.facts with expiration := some expiration } }

/-- An event that sets a lifetime moves the expiration and nothing else, or is malformed. -/
theorem apply_lifetime (h : stored.Carries (.lifetimeSet seconds)) :
    m.apply stored =
      match stored.createdAt.addSeconds seconds.toInt with
      | some expiration => .ok (m.expiringAt expiration)
      | none => .error (.malformed stored.kind stored.position "lifetime out of range") := by
  rw [Event.Carries] at h
  cases hend : stored.createdAt.addSeconds seconds.toInt with
  | none => simp [apply, Facts.apply, Facts.record, h, hend, bind, Except.bind]
  | some expiration =>
    simp [apply, Facts.apply, Facts.record, h, hend, bind, Except.bind, pure, Except.pure,
      expiringAt]

theorem isExpired_expiringAt (m : Model) (expiration now : Instant) :
    (m.expiringAt expiration).facts.isExpired now = true ↔ expiration ≤ now := by
  simp [Facts.isExpired_iff, expiringAt]

theorem isExpired_expiringAt_eq_false (m : Model) {expiration now : Instant}
    (h : now < expiration) : (m.expiringAt expiration).facts.isExpired now = false :=
  Bool.eq_false_iff.mpr fun hexpired =>
    Instant.lt_iff_not_le.mp h ((isExpired_expiringAt m expiration now).mp hexpired)

/-- **Lifetimes are exact up to the last instant.** The number of seconds of a stored lifetime is
always a span. The event that sets it is malformed just if the lifetime ends past the last instant.
Otherwise it is folded, and the session expires where the lifetime ends, which is later than the
event: it is not expired at any instant before and at every other it is, and if it is active, it can
be used at the time of the event itself. -/
theorem lifetime_exact (m : Model) (h : stored.Carries (.lifetimeSet seconds)) :
    (∃ span, Span.ofSeconds? seconds = some span ∧ span.seconds = seconds.toInt) ∧
      (m.apply stored = .error (.malformed SessionEvent.Kind.lifetimeSet.name stored.position
          "lifetime out of range") ↔
        Instant.last.elapsed < stored.lifetimeEnd seconds) ∧
      (stored.lifetimeEnd seconds ≤ Instant.last.elapsed →
        ∃ m' expiration, m.apply stored = .ok m' ∧ m' = m.expiringAt expiration ∧
          (expiration.elapsed = stored.lifetimeEnd seconds ∧ expiration.isLeap = false) ∧
          stored.createdAt < expiration ∧
          (∀ now < expiration, m'.facts.isExpired now = false) ∧
          (∀ now, expiration ≤ now → m'.facts.isExpired now = true) ∧
          (m'.facts.state = .active → m'.view.isUsable stored.createdAt = true)) := by
  obtain ⟨-, -, hvalid⟩ := SessionEvent.decode_eq_some_iff.mp h
  obtain ⟨hpos, hspan⟩ := SessionEvent.exists_span hvalid
  have hkind : stored.kind = SessionEvent.Kind.lifetimeSet.name := h.kind_eq
  have hpast : stored.createdAt.addSeconds seconds.toInt = none ↔
      Instant.last.elapsed < stored.lifetimeEnd seconds := Instant.addSeconds_eq_none_iff hpos
  refine ⟨hspan, ?_, fun hinside => ?_⟩
  · rw [apply_lifetime h, ← hpast, hkind]
    cases stored.createdAt.addSeconds seconds.toInt with
    | none => simp
    | some expiration => simp
  · obtain ⟨expiration, hend⟩ : ∃ u, stored.createdAt.addSeconds seconds.toInt = some u :=
      Option.ne_none_iff_exists'.mp fun hnone => Int.not_lt.mpr hinside (hpast.mp hnone)
    have hlater : stored.createdAt < expiration := Instant.ticks_lt_ticks_addSeconds hpos hend
    exact ⟨_, expiration, by rw [apply_lifetime h, hend], rfl,
      Instant.elapsed_addSeconds hpos hend, hlater,
      fun now => isExpired_expiringAt_eq_false m,
      fun now => (isExpired_expiringAt m expiration now).mpr,
      fun hactive => isUsable_view_iff.mpr ⟨hactive, isExpired_expiringAt_eq_false m hlater⟩⟩

/-- An active session gets a lifetime of one second, in the middle of the leap second of 2016, and
in the middle of a leap second behind the last instant, where that is too long. -/
theorem lifetime_exact_leapSecond :
    let opened : Model := { Model.new "s" (some "org") with facts := { state := .active } }
    let envelope (now : Instant) : Event := ⟨"session", "s", "org", "", .null, 2, now, ""⟩
    let leap : Instant := { day := 17166, second := 86399, nanos := 1500000000 }
    let lastLeap : Instant := { day := Instant.lastDay, second := 86399, nanos := 1500000000 }
    (∃ m', opened.apply ((envelope leap).carrying (.lifetimeSet 1)) = .ok m' ∧
      m'.view.isUsable leap = true ∧
      m'.facts.isExpired { day := 17167, second := 0, nanos := 500000000 } = true) ∧
    opened.apply ((envelope lastLeap).carrying (.lifetimeSet 1)) =
      .error (.malformed "session.lifetime.set" 2 "lifetime out of range") := by
  intro opened envelope leap lastLeap
  have hcarries (now : Instant) :
      ((envelope now).carrying (.lifetimeSet 1)).Carries (.lifetimeSet 1) :=
    Event.Carries.of_carrying _ (by decide)
  constructor
  · obtain ⟨-, -, hfolds⟩ := lifetime_exact opened (hcarries leap)
    obtain ⟨m', expiration, hm, rfl, ⟨hend, hregular⟩, -, -, hexpired, husable⟩ :=
      hfolds (by decide)
    refine ⟨_, hm, husable rfl, hexpired _ ?_⟩
    rw [Instant.le_iff_elapsed_le hregular (by decide), hend]
    decide
  · exact (lifetime_exact opened (hcarries lastLeap)).2.1.mpr (by decide)

end Model

end SessionLedger
