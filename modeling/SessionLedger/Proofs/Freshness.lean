import SessionLedger.Proofs.Recounting

/-!
# How fresh a session is

A session is as fresh as the latest of its factor checks. Of each kind of check it keeps one time,
that of the last check in the order of the log, and that need not be the latest by the clock: nobody
orders the times at which events were stored, neither the store, whose clock may be set back, nor an
import.

So a further check may take the place of an earlier one that has the later time, and if no other
check is as late, the session looks less recently authenticated than before. This is the only way in
which it can happen. Checks of other kinds, and all other events, leave the time of a check as it
is.

## Main definitions

* `SessionEvent.Kind.checks`, `Facts.checkedAt` — the kinds of check that count, and their times
* `NotEarlier` — one instant is not before the other, if there is any

## Main results

* `Facts.authenticationInstant_spec` — the instant is the latest of the times of the checks
* `Facts.checkedAt_of_fold` — the time of a check is that of the last one of its kind
* `Model.authentication_kept` — when a session does not become less fresh
* `Model.authentication_set_back` — a check that makes it less fresh
-/

namespace SessionLedger

/-! ### The latest of some instants -/

namespace Instant

theorem le_refl (a : Instant) : a ≤ a := Int.le_refl a.ticks

theorem le_trans {a b c : Instant} (h : a ≤ b) (h' : b ≤ c) : a ≤ c := by
  rw [le_iff] at *
  omega

theorem le_antisymm {a b : Instant} (h : a ≤ b) (h' : b ≤ a) : a = b := by
  rw [le_iff] at *
  exact ticks_inj (by omega)

theorem later_cases (a b : Instant) : later a b = a ∨ later a b = b := by
  rw [later]
  split
  · exact .inr rfl
  · exact .inl rfl

theorem le_later (a b : Instant) : a ≤ later a b ∧ b ≤ later a b := by
  rw [later]
  split
  · next hle => exact ⟨hle, le_refl b⟩
  · next hlt =>
    refine ⟨le_refl a, ?_⟩
    rw [le_iff] at *
    omega

end Instant

/-- The second instant is not before the first. No instant is before every other. -/
def NotEarlier (before after : Option Instant) : Prop := ∀ t ∈ before, ∃ t' ∈ after, t ≤ t'

namespace Facts

/-- The latest of some instants is one of them, and none of them is later. -/
theorem latest_spec {l : List Instant} {t : Instant} (h : latest l = some t) :
    t ∈ l ∧ ∀ u ∈ l, u ≤ t := by
  cases l with
  | nil => cases h
  | cons first l =>
    cases h
    obtain ⟨hfirst, hle⟩ := le_foldl Instant.le_refl Instant.le_trans Instant.le_later l first
    refine ⟨?_, List.forall_mem_cons.mpr ⟨hfirst, hle⟩⟩
    rcases foldl_mem_of_chooses Instant.later_cases l first with hsame | hmem
    · rw [hsame]
      exact List.mem_cons_self
    · exact List.mem_cons_of_mem first hmem

/-! ### The times of the checks -/

end Facts

/-- The kinds of check that count. That a user was named is none of them. -/
def SessionEvent.Kind.checks : List Kind :=
  [.passwordChecked, .webauthnChecked, .totpChecked, .intentChecked]

/-- A time that is found in a history is that of an event in it. -/
theorem Event.exists_of_latest_timeOf {kind : SessionEvent.Kind} {events : List Event} {t : Instant}
    (h : Event.latest (SessionEvent.timeOf kind) events = some t) :
    ∃ e ∈ events, e.kind = kind.name ∧ e.createdAt = t := by
  obtain ⟨e, he, hfound⟩ := List.exists_of_findSome?_eq_some h
  obtain ⟨said, hsaid, htime⟩ := Option.bind_eq_some_iff.mp hfound
  refine ⟨e, List.mem_reverse.mp he, ?_⟩
  rw [SessionEvent.timeOf] at htime
  split at htime
  · next hkind =>
    have hdecode : SessionEvent.decode e = .ok (some said) := by
      rw [Event.said?] at hsaid
      split at hsaid
      · next hok => rw [hok, hsaid]
      · cases hsaid
    rw [← hkind]
    exact ⟨(SessionEvent.decode_eq_some_iff.mp hdecode).1, Option.some.inj htime⟩
  · cases htime

namespace Facts

variable {f f' : Facts} {events : List Event} {kind : SessionEvent.Kind} {t : Instant}

/-- When a check of a kind was recorded last. -/
def checkedAt (f : Facts) : SessionEvent.Kind → Option Instant
  | .passwordChecked => f.passwordCheckedAt
  | .webauthnChecked => f.webauthnCheckedAt
  | .totpChecked => f.totpCheckedAt
  | .intentChecked => f.intentCheckedAt
  | _ => none

theorem mem_checks_iff : t ∈ f.checks ↔ ∃ kind ∈ SessionEvent.Kind.checks,
    f.checkedAt kind = some t := by
  simp [checks, SessionEvent.Kind.checks, checkedAt, eq_comm]

/-- The instant is the latest of the times of the checks. -/
theorem authenticationInstant_spec (h : f.authenticationInstant = some t) :
    (∃ kind ∈ SessionEvent.Kind.checks, f.checkedAt kind = some t) ∧
      ∀ kind ∈ SessionEvent.Kind.checks, ∀ u ∈ f.checkedAt kind, u ≤ t := by
  obtain ⟨hmem, hle⟩ := latest_spec h
  refine ⟨mem_checks_iff.mp hmem, fun kind hkind u hu => ?_⟩
  exact hle u (mem_checks_iff.mpr ⟨kind, hkind, hu⟩)

/-- A session is at least as fresh as each of its checks. -/
theorem exists_authenticationInstant (hkind : kind ∈ SessionEvent.Kind.checks)
    (h : f.checkedAt kind = some t) : ∃ t' ∈ f.authenticationInstant, t ≤ t' := by
  cases hlatest : f.authenticationInstant with
  | some last => exact ⟨last, rfl, (authenticationInstant_spec hlatest).2 kind hkind t h⟩
  | none =>
    have hmem : t ∈ f.checks := mem_checks_iff.mpr ⟨kind, hkind, h⟩
    rw [authenticationInstant] at hlatest
    cases hchecks : f.checks with
    | nil =>
      rw [hchecks] at hmem
      cases hmem
    | cons first rest =>
      rw [hchecks] at hlatest
      cases hlatest

/-- The time of a check is that of the last one of its kind. -/
theorem checkedAt_of_fold (hkind : kind ∈ SessionEvent.Kind.checks)
    (h : events.foldlM apply f = .ok f') :
    f'.checkedAt kind =
      (Event.latest (SessionEvent.timeOf kind) events).or (f.checkedAt kind) := by
  refine latest_of_fold (fun f => f.checkedAt kind) (fun f now e => ?_) h
  simp only [SessionEvent.Kind.checks, List.mem_cons, List.not_mem_nil, or_false] at hkind
  rcases hkind with rfl | rfl | rfl | rfl <;> rfl

/-- Further events leave a session as fresh as it was just if one of the new checks is as late as
the freshest old one, or the freshest old one was of a kind that was not checked again. -/
theorem notEarlier_iff (h : events.foldlM apply f = .ok f') :
    NotEarlier f.authenticationInstant f'.authenticationInstant ↔
      ∀ t ∈ f.authenticationInstant,
        (∃ kind ∈ SessionEvent.Kind.checks,
          ∃ t' ∈ Event.latest (SessionEvent.timeOf kind) events, t ≤ t') ∨
        ∃ kind ∈ SessionEvent.Kind.checks, f.checkedAt kind = some t ∧
          Event.latest (SessionEvent.timeOf kind) events = none := by
  constructor
  · intro hkept t ht
    obtain ⟨t', ht', hle⟩ := hkept t ht
    obtain ⟨kind, hkind, hchecked⟩ := (authenticationInstant_spec ht').1
    rw [checkedAt_of_fold hkind h] at hchecked
    cases hlast : Event.latest (SessionEvent.timeOf kind) events with
    | some last =>
      rw [hlast, Option.some_or] at hchecked
      exact .inl ⟨kind, hkind, t', hlast.trans hchecked, hle⟩
    | none =>
      -- The check is an old one, so it is not later than the freshest of these.
      rw [hlast, Option.none_or] at hchecked
      have hge : t' ≤ t := (authenticationInstant_spec ht).2 kind hkind t' hchecked
      obtain rfl := Instant.le_antisymm hle hge
      exact .inr ⟨kind, hkind, hchecked, hlast⟩
  · intro hcases t ht
    rcases hcases t ht with ⟨kind, hkind, t', hlast, hle⟩ | ⟨kind, hkind, hchecked, hnone⟩
    · have hnew : f'.checkedAt kind = some t' := by
        rw [checkedAt_of_fold hkind h, hlast, Option.some_or]
      obtain ⟨u, hu, hle'⟩ := exists_authenticationInstant hkind hnew
      exact ⟨u, hu, Instant.le_trans hle hle'⟩
    · refine exists_authenticationInstant hkind ?_
      rw [checkedAt_of_fold hkind h, hnone, Option.none_or, hchecked]

/-- If no check is stamped before the one of its kind that it takes the place of, the session stays
as fresh as it was. -/
theorem notEarlier_of_forward (h : events.foldlM apply f = .ok f')
    (hforward : ∀ e ∈ events, ∀ kind ∈ SessionEvent.Kind.checks, e.kind = kind.name →
      ∀ t ∈ f.checkedAt kind, t ≤ e.createdAt) :
    NotEarlier f.authenticationInstant f'.authenticationInstant := by
  refine (notEarlier_iff h).mpr fun t ht => ?_
  obtain ⟨kind, hkind, hchecked⟩ := (authenticationInstant_spec ht).1
  cases hlast : Event.latest (SessionEvent.timeOf kind) events with
  | none => exact .inr ⟨kind, hkind, hchecked, hlast⟩
  | some last =>
    obtain ⟨e, he, hname, hcreated⟩ := Event.exists_of_latest_timeOf hlast
    exact .inl ⟨kind, hkind, last, hlast, hcreated ▸ hforward e he kind hkind hname t hchecked⟩

end Facts

/-! ### Loading more -/

namespace Model

variable {m m' : Model} {batch : List Event}

/-- Loading events behind those that were folded adds them to the facts. -/
theorem foldlM_facts_of_load (hempty : m.buffer = [])
    (hpast : ∀ e ∈ batch, m.position < e.position)
    (hinc : batch.Pairwise fun e e' => e.position < e'.position)
    (hload : m.load batch = (.ok (), m')) : batch.foldlM Facts.apply m.facts = .ok m'.facts := by
  rw [load_of_empty hempty] at hload
  rw [← map_facts_fold hpast hinc]
  cases hfold : m.fold batch with
  | error fault =>
    rw [hfold] at hload
    cases hload
  | ok next =>
    rw [hfold] at hload
    cases hload
    rfl

/-- **When a session does not become less fresh.** A model that has nothing in its buffer loads
further events behind those it has folded. The session is then at least as fresh as it was, just if
one of the new checks is as late as the freshest old one, or the freshest old one was of a kind that
was not checked again. In particular it is, whatever else is in the events, if no check is stamped
before the one of its kind that it takes the place of. -/
theorem authentication_kept (hempty : m.buffer = []) (hpast : ∀ e ∈ batch, m.position < e.position)
    (hinc : batch.Pairwise fun e e' => e.position < e'.position)
    (hload : m.load batch = (.ok (), m')) :
    (NotEarlier m.facts.authenticationInstant m'.facts.authenticationInstant ↔
      ∀ t ∈ m.facts.authenticationInstant,
        (∃ kind ∈ SessionEvent.Kind.checks,
          ∃ t' ∈ Event.latest (SessionEvent.timeOf kind) batch, t ≤ t') ∨
        ∃ kind ∈ SessionEvent.Kind.checks, m.facts.checkedAt kind = some t ∧
          Event.latest (SessionEvent.timeOf kind) batch = none) ∧
      ((∀ e ∈ batch, ∀ kind ∈ SessionEvent.Kind.checks, e.kind = kind.name →
          ∀ t ∈ m.facts.checkedAt kind, t ≤ e.createdAt) →
        NotEarlier m.facts.authenticationInstant m'.facts.authenticationInstant) := by
  have hfacts := foldlM_facts_of_load hempty hpast hinc hload
  exact ⟨Facts.notEarlier_iff hfacts, Facts.notEarlier_of_forward hfacts⟩

/-- The tenth second of a day. -/
def tenth : Instant := { Instant.epoch with
  second := 10
  second_lt := by decide
  leap := by decide }

/-- The seventh second of that day. -/
def seventh : Instant := { Instant.epoch with
  second := 7
  second_lt := by decide
  leap := by decide }

/-- An event of a session at a place and a time. -/
def stampedAt (now : Instant) (position : UInt64) (p : PendingEvent) : Event :=
  p.stored ⟨sessionType, "s"⟩ "org" position now

/-- A session that was authenticated by password, and by a one-time code that was stamped before. -/
def authenticated : Model :=
  ((Model.new "s" none).load [stampedAt .epoch 1 (SessionEvent.added none).toPending,
    stampedAt tenth 2 SessionEvent.passwordChecked.toPending,
    stampedAt .epoch 4 SessionEvent.totpChecked.toPending]).2

/-- Another one-time code, stamped after the first and before the password. -/
def codeAgain : List Event :=
  [stampedAt .epoch 5 { kind := "session.otp" },
    stampedAt seventh 6 SessionEvent.totpChecked.toPending]

theorem authentication_kept_codeAgain :
    authenticated.buffer = [] ∧ (∀ e ∈ codeAgain, authenticated.position < e.position) ∧
      codeAgain.Pairwise (fun e e' => e.position < e'.position) ∧
      (authenticated.load codeAgain).1 = .ok () ∧
      (∀ e ∈ codeAgain, ∀ kind ∈ SessionEvent.Kind.checks, e.kind = kind.name →
        ∀ t ∈ authenticated.facts.checkedAt kind, t ≤ e.createdAt) ∧
      NotEarlier authenticated.facts.authenticationInstant
        (authenticated.load codeAgain).2.facts.authenticationInstant := by
  have hempty : authenticated.buffer = [] := rfl
  have hpast : ∀ e ∈ codeAgain, authenticated.position < e.position := by decide
  have hinc : codeAgain.Pairwise fun e e' => e.position < e'.position := by decide
  have hload : authenticated.load codeAgain = (.ok (), (authenticated.load codeAgain).2) := rfl
  have hforward : ∀ e ∈ codeAgain, ∀ kind ∈ SessionEvent.Kind.checks, e.kind = kind.name →
      ∀ t ∈ authenticated.facts.checkedAt kind, t ≤ e.createdAt := by decide
  exact ⟨hempty, hpast, hinc, rfl, hforward,
    (authentication_kept hempty hpast hinc hload).2 hforward⟩

/-- A check that makes a session less fresh: the password is checked once more, and the clock was
set back in between. -/
theorem authentication_set_back :
    let again := [stampedAt seventh 5 SessionEvent.passwordChecked.toPending]
    authenticated.buffer = [] ∧ (∀ e ∈ again, authenticated.position < e.position) ∧
      (authenticated.load again).1 = .ok () ∧
      authenticated.facts.authenticationInstant = some tenth ∧
      (authenticated.load again).2.facts.authenticationInstant = some seventh ∧
      seventh < tenth := by
  refine ⟨rfl, by decide, rfl, rfl, rfl, by decide⟩

end Model

end SessionLedger
