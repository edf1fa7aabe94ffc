import SessionLedger.Proofs.SharedLog
import SessionLedger.Session.View

/-!
# Sessions that can be used

A login page asks the view of a session whether the session can still be used, and a command asks
its guard. The two look at the same facts in different words: the view wants the expiration to lie
after the present instant, the guard refuses if it lies at it or before. So a page that offers a
command at some instant, and the command that is decided at that instant, never contradict each
other, whatever the command is about; and the guard comes first, so that nobody is asked about a
session that cannot be used.

The commands that begin and end a session have rules of their own and are left out.

## Main definitions

* `Command.isGuarded` — the commands that need a session in use
* `Error.deniesUse` — the errors that say that there is no such session, or that it is over
* `Decision.comesTo` — the events or the error that a decision leads to, given the verifier's answer

## Main results

* `Model.isUsable_view_iff` — the view and the guard mean the same
* `Command.exists_whileActive` — the guard comes first, and nothing behind it denies the use
* `Call.run_follow` — a call does what its decision comes to
* `Command.let_in_while_usable` — guarded commands are let in just while the session can be used
-/

namespace SessionLedger

/-! ### What the view and the guard mean -/

theorem Instant.lt_iff_not_le {a b : Instant} : a < b ↔ ¬ b ≤ a := by
  rw [lt_iff, le_iff, Int.not_le]

/-- The view calls a session usable just if it is active and not expired. -/
theorem Model.isUsable_view_iff {m : Model} {now : Instant} :
    m.view.isUsable now = true ↔ m.facts.state = .active ∧ m.facts.isExpired now = false := by
  rw [View.isUsable, Bool.and_eq_true, beq_iff_eq, Facts.isExpired]
  refine and_congr Iff.rfl ?_
  cases hend : m.facts.expiration with
  | none => simp [view, hend]
  | some expiration => simp [view, hend, Instant.lt_iff_not_le]

/-- The command needs a session in use. All do, but for those that begin a session and end it. -/
def Command.isGuarded : Command → Bool
  | create _ | terminate _ => false
  | _ => true

/-- The error says that there is no such session, or that it is over. -/
def Error.deniesUse : Error → Bool
  | session .notFound _ | session .terminated _ => true
  | _ => false

/-! ### What a decision comes to -/

/-- What a decision comes to, if the verifier answers so. -/
def Decision.comesTo (verify : Check → Except Error Verdict) :
    Decision → Except Error (List SessionEvent)
  | refuse refusal => .error refusal.error
  | append events | ifVacant events => .ok events
  | consult check =>
    match verify check with
    | .ok verdict => (check.conclude verdict).mapError Refusal.error
    | .error e => .error e

/-- The state of the surroundings when the verifier has been asked, if the decision is to ask. -/
def Decision.asked {σ : Type} (w : Surroundings σ) (s : σ) : Decision → σ
  | consult check => (w.verify check s).2
  | _ => s

/-- The call that goes on with the events that its decision came to, or ends with the error. -/
def Call.conclude (c : Call) (m : Model) : Except Error (List SessionEvent) → Call
  | .ok events => c.settle m events
  | .error e => c.finish (.error e)

theorem Call.afterVerdict_eq (c : Call) (m : Model) (check : Check)
    (verify : Check → Except Error Verdict) :
    c.afterVerdict m check (verify check) =
      c.conclude m ((Decision.consult check).comesTo verify) := by
  rw [afterVerdict.eq_def, Decision.comesTo]
  cases verify check with
  | error e => rfl
  | ok verdict =>
    cases hconclude : check.conclude verdict <;> simp only [hconclude] <;> rfl

/-- **A call does what its decision comes to.** If the decision is to ask the verifier, the verifier
is asked once, and otherwise nobody is asked before the call goes on or ends. -/
theorem Call.run_follow {σ : Type} (w : Surroundings σ) (c : Call) (m : Model) {d : Decision}
    (s : σ) (hd : ∀ events, d ≠ .ifVacant events) :
    (c.follow m d).run w s =
      (c.conclude m (d.comesTo fun check => (w.verify check s).1)).run w (d.asked w s) := by
  cases d with
  | refuse | append => rfl
  | ifVacant events => exact absurd rfl (hd events)
  | consult check =>
    have hmoving : ∀ r, (c.follow m (.consult check)).phase ≠ .done r := by simp [follow]
    rw [run_of_not_done hmoving, ← afterVerdict_eq]
    rfl

/-! ### The guard comes first -/

/-- Nothing that the verifier says makes a refusal that denies the use. -/
theorem Check.deniesUse_conclude {check : Check} {verdict : Verdict} {refusal : Refusal}
    (h : check.conclude verdict = .error refusal) : refusal.error.deniesUse = false := by
  rw [conclude.eq_def] at h
  split at h
  · cases h
    rfl
  · split at h
    · cases h
    · cases h
    · cases h
    · split at h
      · cases h
        rfl
      · cases h

/-- The decision is one that may stand behind the guard: the stream need not be vacant for it, and
it does not deny the use once more. -/
structure Decision.Unguarded (d : Decision) : Prop where
  ne_ifVacant : ∀ events, d ≠ .ifVacant events
  deniesUse : ∀ refusal, d = .refuse refusal → refusal.error.deniesUse = false

theorem Decision.unguarded_append (events : List SessionEvent) : (append events).Unguarded where
  ne_ifVacant := by simp
  deniesUse := by simp

theorem Decision.unguarded_consult (check : Check) : (consult check).Unguarded where
  ne_ifVacant := by simp
  deniesUse := by simp

theorem Decision.unguarded_refuse {refusal : Refusal} (h : refusal.error.deniesUse = false) :
    (refuse refusal).Unguarded where
  ne_ifVacant := by simp
  deniesUse := by
    rintro _ ⟨⟩
    exact h

theorem Decision.unguarded_withUser {m : Model} {go : String → Decision}
    (h : ∀ userId, (go userId).Unguarded) : (withUser m go).Unguarded := by
  rw [withUser]
  split
  · exact h _
  · exact unguarded_refuse rfl

/-- The guard comes first, and what stands behind it does not deny the use. -/
theorem Command.exists_whileActive {command : Command} (hc : command.isGuarded = true)
    (now : Instant) (minted : Minted) (m : Model) :
    ∃ go : Decision, go.Unguarded ∧ command.decide now minted m = whileActive m now go := by
  cases command with
  | create | terminate => cases hc
  | checkUser userId resourceOwner =>
    refine ⟨_, ?_, rfl⟩
    split
    · exact Decision.unguarded_refuse rfl
    · exact Decision.unguarded_append _
  | checkPassword | checkIntent | checkTotp =>
    exact ⟨_, Decision.unguarded_withUser fun _ => Decision.unguarded_consult _, rfl⟩
  | challengeWebauthn =>
    exact ⟨_, Decision.unguarded_withUser fun _ => Decision.unguarded_append _, rfl⟩
  | checkWebauthn assertion =>
    refine ⟨_, Decision.unguarded_withUser fun userId => ?_, rfl⟩
    split
    · exact Decision.unguarded_consult _
    · exact Decision.unguarded_refuse rfl
  | setToken | setMetadata | setLifetime => exact ⟨_, Decision.unguarded_append _, rfl⟩

/-- Behind the guard, a denial of the use is the verifier's own. -/
theorem Decision.Unguarded.eq_consult {d : Decision} (hd : d.Unguarded)
    {verify : Check → Except Error Verdict} {e : Error} (h : d.comesTo verify = .error e)
    (he : e.deniesUse = true) : ∃ check, d = .consult check ∧ verify check = .error e := by
  cases d with
  | refuse refusal =>
    cases h
    rw [hd.deniesUse refusal rfl] at he
    cases he
  | append | ifVacant => cases h
  | consult check =>
    refine ⟨check, rfl, ?_⟩
    rw [comesTo] at h
    cases hverify : verify check with
    | error e' =>
      cases hverify ▸ h
      rfl
    | ok verdict =>
      rw [hverify] at h
      cases hconclude : check.conclude verdict with
      | ok events => simp [hconclude, Except.mapError] at h
      | error refusal =>
        obtain rfl : refusal.error = e := by simpa [hconclude, Except.mapError] using h
        rw [Check.deniesUse_conclude hconclude] at he
        cases he

/-! ### The view and the guard -/

/-- Why the guard refuses a session that cannot be used. -/
def Model.denial (m : Model) : Refusal :=
  match m.facts.state with
  | .uninitialized => .notFound m.sessionId
  | .terminated => .ended
  | .active => .expired

theorem whileActive_eq (m : Model) (now : Instant) (go : Decision) :
    whileActive m now go = if m.view.isUsable now then go else .refuse m.denial := by
  by_cases husable : m.view.isUsable now = true
  · obtain ⟨hactive, hfresh⟩ := Model.isUsable_view_iff.mp husable
    simp [whileActive, hactive, hfresh, husable]
  · have hnot := mt Model.isUsable_view_iff.mpr husable
    rw [if_neg husable, whileActive, Model.denial]
    cases hstate : m.facts.state with
    | uninitialized | terminated => rfl
    | active =>
      have hexpired : m.facts.isExpired now = true := by simpa [hstate] using hnot
      simp [hexpired]

/-- The guard refuses with one code if there is no session, and with another if it is over. -/
theorem Model.error_denial (m : Model) : ∃ reason, m.denial.error =
    .session (if m.facts.state = .uninitialized then .notFound else .terminated) reason := by
  rw [denial]
  cases hstate : m.facts.state <;> exact ⟨_, rfl⟩

/-- **Guarded commands are let in just while the view calls the session usable.** While it does
not, there is one refusal for all of them, which says that there is no session or that it is over,
and the call ends with it and asks nobody. While it does, none of them ends with such an error,
except with one that the verifier answered. -/
theorem Command.let_in_while_usable (m : Model) (now : Instant) :
    (m.view.isUsable now = false → ∃ refusal : Refusal,
      (∃ reason, refusal.error =
        .session (if m.facts.state = .uninitialized then .notFound else .terminated) reason) ∧
      ∀ command : Command, command.isGuarded = true → ∀ minted,
        command.decide now minted m = .refuse refusal ∧
        ∀ {σ : Type} (w : Surroundings σ) (c : Call) (s : σ),
          (c.follow m (command.decide now minted m)).run w s = (.error refusal.error, s)) ∧
    (m.view.isUsable now = true → ∀ command : Command, command.isGuarded = true → ∀ minted,
      (∀ verify e, (command.decide now minted m).comesTo verify = .error e →
        e.deniesUse = true →
        ∃ check, command.decide now minted m = .consult check ∧ verify check = .error e) ∧
      ∀ {σ : Type} (w : Surroundings σ) (c : Call) (s : σ),
        (c.follow m (command.decide now minted m)).run w s =
          (c.conclude m ((command.decide now minted m).comesTo fun check =>
            (w.verify check s).1)).run w ((command.decide now minted m).asked w s)) := by
  constructor
  · intro hunusable
    refine ⟨m.denial, m.error_denial, fun command hc minted => ?_⟩
    obtain ⟨go, -, hdecide⟩ := command.exists_whileActive hc now minted m
    have hrefuse : command.decide now minted m = .refuse m.denial := by
      rw [hdecide, whileActive_eq, hunusable]
      rfl
    refine ⟨hrefuse, fun w c s => ?_⟩
    rw [hrefuse]
    exact Call.run_of_done rfl
  · intro husable command hc minted
    obtain ⟨go, hgo, hdecide⟩ := command.exists_whileActive hc now minted m
    rw [whileActive_eq, if_pos husable] at hdecide
    rw [hdecide]
    exact ⟨fun verify e h he => hgo.eq_consult h he,
      fun w c s => Call.run_follow w c m s hgo.ne_ifVacant⟩

/-- A session that expires at midnight can be used in the second before, and not at midnight. -/
theorem Command.let_in_while_usable_midnight :
    let m : Model :=
      { Model.new "s1" none with facts := { state := .active, expiration := some .epoch } }
    let lastSecond : Instant := { day := -1, second := 86399, nanos := 0 }
    (m.view.isUsable .epoch = false ∧ ∃ refusal : Refusal,
      (∃ reason, refusal.error = .session .terminated reason) ∧
      ∀ minted, (setToken).decide .epoch minted m = .refuse refusal) ∧
    (m.view.isUsable lastSecond = true ∧ ∀ minted verify e,
      ((setToken).decide lastSecond minted m).comesTo verify = .error e → e.deniesUse = true →
      ∃ check, (setToken).decide lastSecond minted m = .consult check ∧
        verify check = .error e) := by
  intro m lastSecond
  refine ⟨⟨rfl, ?_⟩, rfl, fun minted => ?_⟩
  · obtain ⟨refusal, hcode, hall⟩ := (let_in_while_usable m .epoch).1 rfl
    exact ⟨refusal, hcode, fun minted => (hall .setToken rfl minted).1⟩
  · exact ((let_in_while_usable m lastSecond).2 rfl .setToken rfl minted).1

end SessionLedger
