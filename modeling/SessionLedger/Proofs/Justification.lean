import SessionLedger.Proofs.FreshDecision
import SessionLedger.Proofs.History

/-!
# Why factors are in the log

Every event by which a session's user has proved who they are rests on two things: on the events
before it in its stream, which say who the user is and which challenge is outstanding, and on the
answer of the verifier to the question that its call has asked last. The question names the user
and the challenge that the call found in its model. That model is current when the event is
appended, so what the call found is what the stream says.

The proof follows this order. A decision is warranted by the facts that it is made on
(`Call.warrants_of_decides`), the facts tell of the stream (`Facts.tells_of_fold`), and so what is
appended to a justified stream leaves it justified (`Justified.concat_warranted`).

## Main definitions

* `Vouched` — what the event of a factor rests on
* `Facts.Warrants` — what has to be known before an event may be appended
* `Entry.Backed`, `Justified` — an entry, and a whole stream, with nothing in it unfounded
* `Caller.Appends` — what holds when a caller appends an event

## Main results

* `Call.warrants_of_decides` — calls append only what their model warrants
* `World.appends_of_push` — what holds whenever the store admits what a call appends
* `World.entries_induction` — induction on the entries of a stream
* `World.factors_justified` — every stream is justified, in every run
-/

namespace SessionLedger

/-! ### What a factor rests on -/

/-- The verifier was asked the question and answered that all is well. -/
def Approved (asked : Option Consultation) (check : Check) (v : Verdict) : Prop :=
  asked = some ⟨check, .ok v⟩ ∧ v.verified = true

/-- What the event of a factor rests on: the approval of the verifier, who was asked about the user,
and about the challenge where there is one. Who that is and which challenge it is has to be known
from elsewhere. -/
def Vouched (isUser : String → Prop) (isOpen : Challenge → Prop) (asked : Option Consultation) :
    SessionEvent → Prop
  | .passwordChecked => ∃ userId password v,
      isUser userId ∧ Approved asked (.password userId password) v
  | .totpChecked => ∃ userId code v, isUser userId ∧ Approved asked (.totp userId code) v
  | .intentChecked => ∃ userId intentId token v,
      isUser userId ∧ Approved asked (.intent userId intentId token) v
  | .webauthnChecked userVerified => ∃ userId challenge assertion v,
      isUser userId ∧ isOpen challenge ∧
        Approved asked (.webauthn userId challenge assertion) v ∧
        userVerified = v.userVerified ∧
        (challenge.requiresVerification = true → userVerified = true)
  | _ => True

theorem Vouched.imp {isUser isUser' : String → Prop} {isOpen isOpen' : Challenge → Prop}
    {asked : Option Consultation} {e : SessionEvent} (huser : ∀ u, isUser u → isUser' u)
    (hopen : ∀ c, isOpen c → isOpen' c) (h : Vouched isUser isOpen asked e) :
    Vouched isUser' isOpen' asked e := by
  cases e with
  | passwordChecked =>
    obtain ⟨u, password, v, hu, happroved⟩ := h
    exact ⟨u, password, v, huser u hu, happroved⟩
  | totpChecked =>
    obtain ⟨u, code, v, hu, happroved⟩ := h
    exact ⟨u, code, v, huser u hu, happroved⟩
  | intentChecked =>
    obtain ⟨u, intentId, token, v, hu, happroved⟩ := h
    exact ⟨u, intentId, token, v, huser u hu, happroved⟩
  | webauthnChecked userVerified =>
    obtain ⟨u, c, assertion, v, hu, hc, happroved⟩ := h
    exact ⟨u, c, assertion, v, huser u hu, hopen c hc, happroved⟩
  | _ => trivial

/-! ### What a decision rests on -/

/-- What has to be known of a session before an event may be appended, and what the verifier has to
have said. -/
structure Facts.Warrants (f : Facts) (asked : Option Consultation) (e : SessionEvent) : Prop where
  /-- A session is opened once, and everything else happens to open sessions. -/
  state : f.state = if e.kind = .added then .uninitialized else .active
  /-- Nobody else is identified than the user there is. -/
  sameUser : ∀ u, e.user? = some u → ∀ known, f.userId = some known → known = u
  vouched : Vouched (f.userId = some ·) (f.challenge = some ·) asked e

namespace Decision.LeadsTo

variable {m : Model} {now : Instant} {asked : Option Consultation} {events : List SessionEvent}

theorem of_whileActive {go : Decision} (h : (whileActive m now go).LeadsTo asked events) :
    m.facts.state = .active ∧ go.LeadsTo asked events := by
  rw [whileActive] at h
  split at h
  · exact absurd h not_false
  · exact absurd h not_false
  · next hstate =>
    split at h
    · exact absurd h not_false
    · exact ⟨hstate, h⟩

theorem of_withUser {go : String → Decision} (h : (withUser m go).LeadsTo asked events) :
    ∃ u, m.facts.userId = some u ∧ (go u).LeadsTo asked events := by
  rw [withUser] at h
  split at h
  · next u hu => exact ⟨u, hu, h⟩
  · exact absurd h not_false

end Decision.LeadsTo

namespace Check

/-- The user that a check is about. -/
def userId : Check → String
  | password u _ | totp u _ | intent u _ _ | webauthn u _ _ => u

/-- The challenge that a check is about. -/
def challenge? : Check → Option Challenge
  | webauthn _ c _ => some c
  | _ => none

/-- What a verdict justifies is vouched for, if the check was about the right user and the right
challenge. -/
theorem warrants_of_conclude {f : Facts} {check : Check} {v : Verdict}
    {events : List SessionEvent} {asked : Option Consultation}
    (hconclude : check.conclude v = .ok events) (hasked : asked = some ⟨check, .ok v⟩)
    (hstate : f.state = .active) (huser : f.userId = some check.userId)
    (hopen : ∀ c, check.challenge? = some c → f.challenge = some c) :
    ∃ e, events = [e] ∧ f.Warrants asked e := by
  rw [conclude.eq_def] at hconclude
  split at hconclude
  · cases hconclude
  · next hverified =>
    have happroved : Approved asked check v := ⟨hasked, by simpa using hverified⟩
    cases check with
    | password u text =>
      cases hconclude
      exact ⟨_, rfl, hstate, nofun, u, text, v, huser, happroved⟩
    | totp u code =>
      cases hconclude
      exact ⟨_, rfl, hstate, nofun, u, code, v, huser, happroved⟩
    | intent u intentId token =>
      cases hconclude
      exact ⟨_, rfl, hstate, nofun, u, intentId, token, v, huser, happroved⟩
    | webauthn u c assertion =>
      simp only at hconclude
      split at hconclude
      · cases hconclude
      · next hrequired =>
        cases hconclude
        refine ⟨_, rfl, hstate, nofun, u, c, assertion, v, huser, hopen c rfl, happroved, rfl, ?_⟩
        simpa using hrequired

end Check

/-- A call appends at most one event at a time, and only what its model warrants. -/
theorem Call.warrants_of_decides {c : Call} {m : Model} {d : Decision}
    {asked : Option Consultation} {events : List SessionEvent} (hd : c.Decides m d)
    (hleads : d.LeadsTo asked events) (hnonempty : events ≠ []) :
    ∃ e, events = [e] ∧ m.facts.Warrants asked e := by
  obtain ⟨now, minted, rfl⟩ := hd
  cases hcommand : c.command with
  | create userAgent =>
    rw [hcommand, Command.decide] at hleads
    split at hleads
    · exact absurd hleads not_false
    · next hstate =>
      exact ⟨_, hleads, not_not.mp hstate, nofun, trivial⟩
  | terminate tokenId =>
    rw [hcommand, Command.decide] at hleads
    split at hleads
    · exact absurd hleads not_false
    · exact absurd hleads hnonempty
    · next hstate =>
      split at hleads
      · exact absurd hleads not_false
      · exact ⟨_, hleads, hstate, nofun, trivial⟩
  | checkUser userId resourceOwner =>
    rw [hcommand] at hleads
    obtain ⟨hstate, hleads⟩ := hleads.of_whileActive
    split at hleads
    · exact absurd hleads not_false
    · next hsame =>
      refine ⟨_, hleads, hstate, fun u hu known hknown => ?_, trivial⟩
      have hu : userId = u := Option.some.inj hu
      simpa [hknown, hu] using hsame
  | checkPassword password =>
    rw [hcommand] at hleads
    obtain ⟨hstate, hleads⟩ := hleads.of_whileActive
    obtain ⟨u, hu, v, hasked, hconclude⟩ := hleads.of_withUser
    exact Check.warrants_of_conclude hconclude hasked hstate hu (by rintro c ⟨⟩)
  | checkIntent intentId token =>
    rw [hcommand] at hleads
    obtain ⟨hstate, hleads⟩ := hleads.of_whileActive
    obtain ⟨u, hu, v, hasked, hconclude⟩ := hleads.of_withUser
    exact Check.warrants_of_conclude hconclude hasked hstate hu (by rintro c ⟨⟩)
  | checkTotp code =>
    rw [hcommand] at hleads
    obtain ⟨hstate, hleads⟩ := hleads.of_whileActive
    obtain ⟨u, hu, v, hasked, hconclude⟩ := hleads.of_withUser
    exact Check.warrants_of_conclude hconclude hasked hstate hu (by rintro c ⟨⟩)
  | challengeWebauthn allowed verification rpId =>
    rw [hcommand] at hleads
    obtain ⟨hstate, hleads⟩ := hleads.of_whileActive
    obtain ⟨u, hu, hleads⟩ := hleads.of_withUser
    exact ⟨_, hleads, hstate, nofun, trivial⟩
  | checkWebauthn assertion =>
    rw [hcommand] at hleads
    obtain ⟨hstate, hleads⟩ := hleads.of_whileActive
    obtain ⟨u, hu, hleads⟩ := hleads.of_withUser
    split at hleads
    · next challenge hchallenge =>
      obtain ⟨v, hasked, hconclude⟩ := hleads
      refine Check.warrants_of_conclude hconclude hasked hstate hu fun c hc => ?_
      rw [hchallenge, ← hc]
      rfl
    · exact absurd hleads not_false
  | setToken =>
    rw [hcommand] at hleads
    obtain ⟨hstate, hleads⟩ := hleads.of_whileActive
    exact ⟨_, hleads, hstate, nofun, trivial⟩
  | setMetadata entries =>
    rw [hcommand] at hleads
    obtain ⟨hstate, hleads⟩ := hleads.of_whileActive
    simp only at hleads
    split at hleads
    · exact absurd hleads hnonempty
    · exact ⟨_, hleads, hstate, nofun, trivial⟩
  | setLifetime seconds =>
    rw [hcommand] at hleads
    obtain ⟨hstate, hleads⟩ := hleads.of_whileActive
    exact ⟨_, hleads, hstate, nofun, trivial⟩

/-! ### Streams -/

/-- What the call that appended an entry had asked the verifier last. -/
def Entry.asked (x : Entry) : Option Consultation := x.origin.bind Origin.asked

/-- An entry of a kind that sessions know is read back, and if it is about a factor, that rests on
the events before it. -/
def Entry.Backed (earlier : List Event) (x : Entry) : Prop :=
  ∀ kind, SessionEvent.Kind.ofName? x.event.kind = some kind →
    ∃ e, x.event.Carries e ∧ Vouched (Identified earlier) (Outstanding earlier) x.asked e

/-- A stream is about one user at most, and every entry is backed by those before it. -/
structure Justified (entries : List Entry) : Prop where
  oneUser : ∀ u u', Identified (entries.map Entry.event) u →
    Identified (entries.map Entry.event) u' → u = u'
  backed : ∀ earlier x later, entries = earlier ++ x :: later →
    x.Backed (earlier.map Entry.event)

namespace Justified

variable {entries : List Entry} {x : Entry}

theorem nil : Justified [] where
  oneUser u u' h := by obtain ⟨stored, hmem, -⟩ := h; cases hmem
  backed earlier x later h := by cases earlier <;> cases h

/-- Whatever the last entry of a stream is, those before it stay backed. -/
theorem backed_concat (h : Justified entries) (hx : x.Backed (entries.map Entry.event))
    (earlier : List Entry) (y : Entry) (later : List Entry)
    (hsplit : entries ++ [x] = earlier ++ y :: later) : y.Backed (earlier.map Entry.event) := by
  rcases split_concat_cases hsplit with ⟨rest, hold, -⟩ | ⟨rfl, rfl, -⟩
  · exact h.backed earlier y rest hold
  · exact hx

/-- A justified stream stays so when an event comes in that is about the stream's user and rests on
the stream. -/
theorem concat (h : Justified entries) {e : SessionEvent} (hcarries : x.event.Carries e)
    (hsame : ∀ u, Identified (entries.map Entry.event) u → ∀ u', e.user? = some u' → u = u')
    (hvouched : Vouched (Identified (entries.map Entry.event))
      (Outstanding (entries.map Entry.event)) x.asked e) :
    Justified (entries ++ [x]) where
  oneUser u u' hu hu' := by
    rw [List.map_append] at hu hu'
    rcases identified_concat_iff.mp hu with hu | ⟨e₁, he₁, hu⟩ <;>
      rcases identified_concat_iff.mp hu' with hu' | ⟨e₂, he₂, hu'⟩
    · exact h.oneUser u u' hu hu'
    · rw [he₂.unique hcarries] at hu'
      exact hsame u hu u' hu'
    · rw [he₁.unique hcarries] at hu
      exact (hsame u' hu' u hu).symm
    · rw [he₁.unique he₂, hu'] at hu
      exact (Option.some.inj hu).symm
  backed := h.backed_concat fun _ _ => ⟨e, hcarries, hvouched⟩

end Justified

/-! ### Every run -/

/-- What holds when a caller appends an event to a store. -/
structure Caller.Appends (c : Caller) (s : Store) (m : Model) (e : SessionEvent) (stored : Event) :
    Prop where
  /-- The caller's model is the one that loading the session gives. -/
  current : s.load c.call.sessionId c.call.resourceOwner = .ok m
  /-- The event comes of what the command decides. -/
  decided : ∃ d, c.call.Decides m d ∧ d.LeadsTo c.asked [e]
  warranted : m.facts.Warrants c.asked e
  admitted : ∃ now s', s.push now m.identity (.of m) [e.toPending] = .ok ([stored], s')
  carries : stored.Carries e

theorem Caller.Appends.key_eq {c : Caller} {s : Store} {m : Model} {e : SessionEvent}
    {stored : Event} (h : c.Appends s m e stored) :
    m.identity.key = ⟨sessionType, c.call.sessionId⟩ :=
  Model.key_of_ofLog h.current

namespace World

/-- Whatever the store admits, it is one event, which the call's model warrants, and the model is
current. -/
theorem appends_of_push {past : List Act} {number : Nat} {caller : Caller} {m : Model}
    {events : List SessionEvent} {now : Instant} {appended : List Event} {store : Store}
    (hcaller : (after past).callers[number]? = some caller)
    (hphase : caller.call.phase = .appending m events)
    (hpush : (after past).store.push now m.identity (.of m) (events.map SessionEvent.toPending) =
      .ok (appended, store)) :
    ∃ e stored, appended = [stored] ∧ caller.Appends (after past).store m e stored := by
  have hsound := sound_of_caller past (List.mem_of_getElem? hcaller)
  obtain ⟨⟨past', hpast, hload⟩, ⟨d, hd, hleads⟩, hnonempty, hvalid⟩ := hsound.of_appending hphase
  have hcurrent :=
    Store.load_of_check (sound_after past) hpast hload (Store.push_eq_ok_iff.mp hpush).2.1
  obtain ⟨e, rfl, hwarrants⟩ := Call.warrants_of_decides hd hleads hnonempty
  cases Store.carries_of_push hvalid hpush with
  | @cons stored _ _ _ hcarries hrest =>
    cases hrest
    exact ⟨e, stored, rfl, hcurrent, ⟨d, hd, hleads⟩, hwarrants, ⟨now, store, hpush⟩, hcarries⟩

/-- **Induction on the entries of a stream.** What holds of no entries, and is kept both when calls
append and when events come from elsewhere, holds of a stream after every run. -/
theorem entries_induction (acts : List Act) (key : StreamKey) {P : List Entry → Prop} (hnil : P [])
    (hforeign : ∀ entries more, P entries →
      (∀ x ∈ more, x.origin = none ∧ SessionEvent.Kind.ofName? x.event.kind = none) →
      P (entries ++ more))
    (happend : ∀ past number caller m e stored, past <+: acts →
      (after past).callers[number]? = some caller → m.identity.key = key →
      caller.Appends (after past).store m e stored → P ((after past).entries key) →
      P ((after past).entries key ++ [⟨stored, some ⟨number, caller.asked⟩⟩])) :
    P ((after acts).entries key) := by
  refine after_invariant (P := fun w => P (w.entries key)) hnil fun past a w' hprefix hold hev => ?_
  cases hev with
  | enter | idle | move => exact hold
  | @append number moment caller m events appended store hcaller hphase hpush =>
    rw [entries_put, entries_extend (Store.push_log hpush).2.2 key]
    split
    · next hkey =>
      obtain ⟨e, stored, rfl, happends⟩ := appends_of_push hcaller hphase hpush
      exact happend past number caller m e stored ((List.prefix_append past _).trans hprefix)
        hcaller hkey.symm happends hold
    · rwa [List.append_nil]
  | @foreign now who condition batch appended store hpush =>
    rw [entries_extend (Store.push_log hpush).2.2 key]
    split
    · refine hforeign _ _ hold fun x hx => ?_
      obtain ⟨stored, hstored, rfl⟩ := List.mem_map.mp hx
      exact ⟨rfl, ForeignBatch.unknown_of_push hpush stored hstored⟩
    · rwa [List.append_nil]

/-- A session whose user answers a challenge that asks for user verification. -/
def assertion : List Act :=
  .start "s" none (.create none) 0 :: List.replicate 3 (.step 0 contentMoment) ++
  .start "s" none (.checkUser "u" "") 0 :: List.replicate 2 (.step 1 contentMoment) ++
  .start "s" none (.challengeWebauthn [] .required "rp") 0 ::
    List.replicate 2 (.step 2 contentMoment) ++
  .start "s" none (.checkWebauthn [1]) 0 :: List.replicate 3 (.step 3 contentMoment)

end World

end SessionLedger
