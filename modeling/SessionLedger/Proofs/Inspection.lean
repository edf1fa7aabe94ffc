import SessionLedger.Inspector
import SessionLedger.Proofs.Importing

/-!
# What the inspector prints

The inspector reads a whole log, in which the events of all sessions stand one among the other, next
to events of other aggregates. It prints a line for each session as if the log had no other: what it
says of a session it says on the events of that session alone.

It prints nothing of any session if the log is not what it should be: if some line is neither blank
nor an event, or if the positions of some stream, of sessions or of anything else, do not increase.

All this is about the transcript of a run, which is what the program carries out: the lines that it
prints, the complaint with which it fails, and its exit code.

## Main definitions

* `Inspector.FirstFaulty` — the number of the first line that cannot be read
* `Inspector.Reads` — the events of a text in which every line can be read
* `Inspector.replay` — a session, of its own events
* `Inspector.viewLine`, `Inspector.viewLine?` — what is printed of a session
* `Inspector.Prints` — the transcript of a run over some events

## Main results

* `Inspector.readLines_append` — reading goes on until the first line that cannot be read
* `Inspector.sessions_eq` — the sessions of a log, in the order in which they first appear
* `Inspector.write_view` — the text of a view, member by member
* `Inspector.prints_report` — what is printed of a log in order
* `Inspector.Prints.of_alone` — a log with the events of one session only
* `Inspector.inspects_each_alone` — the transcript of a run over any text
-/

namespace SessionLedger

namespace Inspector

/-! ### Reading lines -/

/-- The line is neither blank nor an event. -/
def Faulty (line : List Char) : Prop :=
  line.all Text.isBlank = false ∧ (Event.read (String.ofList line)).isOk = false

instance (line : List Char) : Decidable (Faulty line) :=
  inferInstanceAs (Decidable (_ ∧ _))

/-- The event in a line, if there is one. -/
def event? (line : List Char) : Option Event :=
  if line.all Text.isBlank then none else (Event.read (String.ofList line)).toOption

/-- The number, counted from 1 on, is that of the first faulty line. Blank lines are counted. -/
def FirstFaulty (lines : List (List Char)) (number : Nat) : Prop :=
  ∃ before line rest, lines = before ++ line :: rest ∧ number = before.length + 1 ∧ Faulty line ∧
    ∀ earlier ∈ before, ¬ Faulty earlier

/-- No line of the text is faulty, and these are the events in its lines. -/
def Reads (text : String) (events : List Event) : Prop :=
  (∀ line ∈ lines text, ¬ Faulty line) ∧ (lines text).filterMap event? = events

variable {text path : String} {number : Nat} {before : List (List Char)}
  {events events' : List Event} {sessionId : String}

theorem readLines_of_faulty {line : List Char} (h : Faulty line) (number : Nat)
    (rest : List (List Char)) : readLines number (line :: rest) = .error number := by
  obtain ⟨hblank, hread⟩ := h
  rw [readLines, hblank]
  cases hevent : Event.read (String.ofList line) with
  | error fault => rfl
  | ok e =>
    rw [hevent] at hread
    cases hread

/-- Reading goes on past lines that are not faulty, and collects their events. -/
theorem readLines_append (h : ∀ line ∈ before, ¬ Faulty line) (number : Nat)
    (rest : List (List Char)) :
    readLines number (before ++ rest) =
      (readLines (number + before.length) rest).map (before.filterMap event? ++ ·) := by
  -- Every line, blank or not, moves the number on, so it goes along in the induction.
  induction before generalizing number with
  | nil =>
    simp only [List.nil_append, List.length_nil, Nat.add_zero, List.filterMap_nil]
    cases readLines number rest <;> rfl
  | cons line before ih =>
    obtain ⟨hline, hbefore⟩ := List.forall_mem_cons.mp h
    have hrest := ih hbefore (number + 1)
    rw [List.length_cons, Nat.add_comm before.length 1, ← Nat.add_assoc, List.cons_append,
      readLines]
    cases hblank : line.all Text.isBlank with
    | true =>
      have hnone : event? line = none := by rw [event?, if_pos hblank]
      rw [if_pos rfl, hrest, List.filterMap_cons_none hnone]
    | false =>
      rw [if_neg Bool.false_ne_true]
      cases hevent : Event.read (String.ofList line) with
      | error fault => exact absurd ⟨hblank, by rw [hevent]; rfl⟩ hline
      | ok e =>
        have hsome : event? line = some e := by simp [event?, hblank, hevent, Except.toOption]
        rw [List.filterMap_cons_some hsome]
        simp only [hrest]
        cases readLines (number + 1 + before.length) rest <;> rfl

theorem readEvents_of_firstFaulty (h : FirstFaulty (lines text) number) :
    readEvents path text = .error (.invalidLine number path) := by
  obtain ⟨before, line, rest, hlines, rfl, hfaulty, hbefore⟩ := h
  rw [readEvents, hlines, readLines_append hbefore, readLines_of_faulty hfaulty, Nat.add_comm 1]
  rfl

theorem readEvents_of_reads (h : Reads text events) : readEvents path text = .ok events := by
  obtain ⟨hlines, rfl⟩ := h
  have hread := readLines_append hlines 1 []
  rw [List.append_nil] at hread
  rw [readEvents, hread]
  simp [readLines, Except.map]

/-- Either some line is faulty, and then there is a first, or the text has events. -/
theorem firstFaulty_or_reads (text : String) :
    (∃ number, FirstFaulty (lines text) number) ∨ ∃ events, Reads text events := by
  by_cases h : ∀ line ∈ lines text, ¬ Faulty line
  · exact .inr ⟨_, h, rfl⟩
  · cases hfirst : (lines text).find? fun line => decide (Faulty line) with
    | none => exact absurd (by simpa using List.find?_eq_none.mp hfirst) h
    | some line =>
      obtain ⟨hfaulty, before, rest, hlines, hbefore⟩ := List.find?_eq_some_iff_append.mp hfirst
      exact .inl ⟨_, before, line, rest, hlines, rfl, by simpa using hfaulty,
        by simpa using hbefore⟩

theorem reads_of_readEvents (h : readEvents path text = .ok events) : Reads text events := by
  rcases firstFaulty_or_reads text with ⟨number, hfaulty⟩ | ⟨events', hreads⟩
  · rw [readEvents_of_firstFaulty hfaulty] at h
    cases h
  · rw [readEvents_of_reads hreads] at h
    cases h
    exact hreads

/-! ### The sessions of a log -/

/-- The ids of sessions in the log, one for each event of a session. -/
def sessionIds (log : List Event) : List String :=
  (log.filter fun e => e.aggregateType == sessionType).map Event.aggregateId

theorem mem_sessionIds {log : List Event} :
    sessionId ∈ sessionIds log ↔ ∃ e ∈ log, e.key = ⟨sessionType, sessionId⟩ := by
  simp [sessionIds, Event.key, and_assoc]

theorem eraseDups_concat_of_mem {α : Type} [BEq α] [LawfulBEq α] {l : List α} {a : α} (h : a ∈ l) :
    (l ++ [a]).eraseDups = l.eraseDups := by
  rw [List.eraseDups_append]
  simp [List.removeAll, h]

theorem eraseDups_concat_of_not_mem {α : Type} [BEq α] [LawfulBEq α] {l : List α} {a : α}
    (h : a ∉ l) : (l ++ [a]).eraseDups = l.eraseDups ++ [a] := by
  rw [List.eraseDups_append]
  simp [List.removeAll, h, List.eraseDups_cons]

theorem keysOf_concat (log : List Event) (e : Event) :
    Store.keysOf (log ++ [e]) =
      if e.key ∈ Store.keysOf log then Store.keysOf log else Store.keysOf log ++ [e.key] := by
  rw [Store.keysOf, List.foldl_append]
  rfl

theorem mem_keysOf {log : List Event} {key : StreamKey} :
    key ∈ Store.keysOf log ↔ ∃ e ∈ log, e.key = key := by
  induction log using List.reverseRecOn with
  | nil => simp [Store.keysOf]
  | append_singleton log e ih =>
    have hnext : key ∈ Store.keysOf (log ++ [e]) ↔ key ∈ Store.keysOf log ∨ e.key = key := by
      rw [keysOf_concat]
      split
      · next hseen => exact ⟨.inl, fun h => h.elim id fun hkey => hkey ▸ hseen⟩
      · simp [eq_comm]
    rw [hnext, ih]
    simp [or_and_right, exists_or]

/-- The sessions of a log, each where its first event is. -/
theorem sessions_eq (s : Store) : sessions s = (sessionIds s.log).eraseDups := by
  rw [sessions, Store.aggregates]
  -- Both sides are extended at their end, by the same id and under the same condition.
  induction s.log using List.reverseRecOn with
  | nil => rfl
  | append_singleton log e ih =>
    have hlisted : e.aggregateType = sessionType →
        (e.key ∈ Store.keysOf log ↔ e.aggregateId ∈ sessionIds log) := by
      intro htype
      rw [mem_keysOf, mem_sessionIds, Event.key, htype]
    have hids : sessionIds (log ++ [e]) =
        sessionIds log ++ if e.aggregateType = sessionType then [e.aggregateId] else [] := by
      rw [sessionIds, List.filter_append, List.map_append]
      by_cases htype : e.aggregateType = sessionType <;> simp [sessionIds, htype]
    rw [keysOf_concat, hids]
    by_cases htype : e.aggregateType = sessionType
    · rw [if_pos htype]
      by_cases hseen : e.key ∈ Store.keysOf log
      · rw [if_pos hseen, ih, eraseDups_concat_of_mem ((hlisted htype).mp hseen)]
      · rw [if_neg hseen, eraseDups_concat_of_not_mem (mt (hlisted htype).mpr hseen), ← ih]
        simp [Event.key, htype]
    · rw [if_neg htype, List.append_nil, ← ih]
      split
      · rfl
      · simp [Event.key, htype]

/-! ### Each session on its own -/

/-- The events of the session, in the order of the log. -/
def streamOf (sessionId : String) (log : List Event) : List Event :=
  log.filter fun e => e.key == ⟨sessionType, sessionId⟩

/-- The session, of its own events of kinds that it knows, on behalf of nobody in particular. -/
def replay (sessionId : String) (log : List Event) : Except Error Model :=
  (Model.new sessionId none).fold
    ((streamOf sessionId log).filter fun e => (SessionEvent.Kind.ofName? e.kind).isSome)

/-- How many sessions of the log cannot be replayed. -/
def failing (log : List Event) : Nat :=
  (sessionIds log).eraseDups.countP fun id => !(replay id log).isOk

/-- Of a log in order, a session is rebuilt as it is replayed. -/
theorem rebuild_eq {s : Store} (horder : InOrder s.log) (sessionId : String) :
    rebuild s sessionId = replay sessionId s.log := by
  rw [rebuild, Model.loaded_of_empty rfl, Store.filter, Model.run_query, replay, streamOf,
    List.filter_filter]
  refine congrArg _ (List.filter_congr fun e he => ?_)
  rw [Bool.eq_iff_iff, Model.selects_iff, Bool.and_eq_true, Option.isSome_iff_exists, beq_iff_eq]
  constructor
  · rintro ⟨hkey, -, hkind, -⟩
    exact ⟨hkind, hkey⟩
  · rintro ⟨hkind, hkey⟩
    have hnobody : (Model.new sessionId none).identity.owner? = none :=
      Identity.owner?_session_none sessionId
    exact ⟨hkey, by simp [hnobody], hkind, horder.positive e he⟩

/-- The views of the sessions that can be replayed, and how many others there are. -/
theorem report_eq {s : Store} (horder : InOrder s.log) :
    report s =
      ⟨(sessionIds s.log).eraseDups.filterMap fun id => (replay id s.log).toOption.map Model.view,
        if failing s.log = 0 then none else some (.notRebuilt (failing s.log))⟩ := by
  have hrebuild : rebuild s = fun id => replay id s.log := funext fun id => rebuild_eq horder id
  have hfailed : ∀ ids : List String,
      ids.length - (ids.filterMap fun id => (replay id s.log).toOption.map Model.view).length =
        ids.countP fun id => !(replay id s.log).isOk := by
    intro ids
    have hsome : ∀ id, ((replay id s.log).toOption.map Model.view).isSome =
        (replay id s.log).isOk := by
      intro id
      cases replay id s.log <;> rfl
    rw [List.length_filterMap_eq_countP, List.length_eq_countP_add_countP fun id =>
      (replay id s.log).isOk]
    simp [hsome]
  simp only [report, sessions_eq, hrebuild, List.filterMap_map, List.length_map,
    Function.comp_def, hfailed, failing]
  rfl

/-! ### Lines -/

/-- A text between quotes, or `null` if there is none. -/
def textOrNull (text : Option String) : String := text.elim "null" Json.quote

/-- The line of a session that was replayed: its facts, as a login page may read them. -/
def viewLine (sessionId : String) (m : Model) : String :=
  "\x7b" ++ ",".intercalate [
    "\"session_id\":" ++ Json.quote sessionId,
    "\"state\":" ++ Json.quote m.facts.state.name,
    "\"user_id\":" ++ textOrNull m.facts.userId,
    "\"authentication_instant\":" ++ textOrNull (m.facts.authenticationInstant.map Instant.write),
    "\"factors\":[" ++ ",".intercalate (m.facts.factors.map fun f => Json.quote f.name) ++ "]",
    "\"has_challenge\":" ++ (if m.facts.challenge.isSome then "true" else "false"),
    "\"expiration\":" ++ textOrNull (m.facts.expiration.map Instant.write),
    "\"position\":" ++ toString m.position.toNat] ++ "\x7d"

/-- The line of the session, if it can be replayed. -/
def viewLine? (sessionId : String) (log : List Event) : Option String :=
  (replay sessionId log).toOption.map (viewLine sessionId)

theorem write_text (text : Option String) :
    (UserAgent.textToJson text).write = textOrNull text := by
  cases text with
  | none => exact Json.write_null
  | some text => exact Json.write_str text

theorem write_instant (t : Option Instant) :
    (View.instantToJson t).write = textOrNull (t.map Instant.write) := by
  cases t with
  | none => exact Json.write_null
  | some t => exact Json.write_str t.write

theorem write_factors (factors : List Factor) :
    (Json.arr (factors.map fun f => .str f.name)).write =
      "[" ++ ",".intercalate (factors.map fun f => Json.quote f.name) ++ "]" := by
  simp only [Json.write_arr, List.map_map, Function.comp_def, Json.write_str]

/-- The text of a view, member by member. -/
theorem write_view (m : Model) : m.view.toJson.write = viewLine m.sessionId m := by
  have hposition : toString (m.position.toNat : Int) = toString m.position.toNat := rfl
  simp only [View.toJson, Json.write_obj, List.map_cons, List.map_nil, Json.writeMember,
    Json.write_str, Json.write_bool, Json.write_int, write_text, write_instant, write_factors,
    Model.view, hposition]
  -- In the names of the members nothing is escaped.
  simp only [Json.quote_of_plain (s := "session_id") (by decide),
    Json.quote_of_plain (s := "state") (by decide),
    Json.quote_of_plain (s := "user_id") (by decide),
    Json.quote_of_plain (s := "authentication_instant") (by decide),
    Json.quote_of_plain (s := "factors") (by decide),
    Json.quote_of_plain (s := "has_challenge") (by decide),
    Json.quote_of_plain (s := "expiration") (by decide),
    Json.quote_of_plain (s := "position") (by decide)]
  simp only [viewLine, Facts.hasChallenge, ← String.append_assoc, String.reduceAppend]
  rfl

/-! ### Transcripts -/

/-- The transcript of a run over these events. -/
structure Prints (events : List Event) (t : Transcript) : Prop where
  /-- A line for each session that can be replayed, in the order in which they first appear. -/
  output : t.output = (sessionIds events).eraseDups.filterMap (viewLine? · events)
  /-- How many others there are, if there are any. -/
  complaint : t.complaint = if failing events = 0 then none else
    some ("Error: " ++ toString (failing events) ++ " session(s) failed to replay")
  exitCode : t.exitCode = if failing events = 0 then 0 else 1

theorem report_invalidLine (number : Nat) (path : String) :
    (Failure.invalidLine number path).report =
      "Error: Invalid event on line " ++ toString number ++ " of " ++ path := by
  have hreport : (Failure.invalidLine number path).report =
      "Error: " ++ ("Invalid event on line " ++ toString number ++ " of " ++ path) ++ "" := rfl
  rw [hreport]
  simp only [String.append_empty, ← String.append_assoc, String.reduceAppend]

theorem report_outOfOrder (path : String) (e : Error) :
    (Failure.outOfOrder path e).report =
      "Error: Event log " ++ path ++ " is out of order" ++ "\n\nCaused by:\n    " ++
        e.message := by
  have hreport : (Failure.outOfOrder path e).report =
      "Error: " ++ ("Event log " ++ path ++ " is out of order") ++
        ("\n\nCaused by:\n    " ++ e.message) := rfl
  rw [hreport]
  simp only [← String.append_assoc, String.reduceAppend]

theorem report_notRebuilt (sessions : Nat) :
    (Failure.notRebuilt sessions).report =
      "Error: " ++ toString sessions ++ " session(s) failed to replay" := by
  have hreport : (Failure.notRebuilt sessions).report =
      "Error: " ++ (toString sessions ++ " session(s) failed to replay") ++ "" := rfl
  rw [hreport, String.append_empty, String.append_assoc]

theorem prints_report {s : Store} (horder : InOrder s.log) :
    Prints s.log (report s).transcript := by
  have hline : ∀ id, ((replay id s.log).toOption.map Model.view).map (·.toJson.write) =
      viewLine? id s.log := by
    intro id
    rw [viewLine?]
    cases hreplay : replay id s.log with
    | error e => rfl
    | ok m =>
      obtain rfl : m.sessionId = id := (StreamKey.mk.inj (Model.key_of_fold hreplay)).2
      exact congrArg some (write_view m)
  rw [report_eq horder]
  refine ⟨?_, ?_, ?_⟩
  · simp only [Report.transcript, List.map_filterMap, hline]
  · by_cases hnone : failing s.log = 0 <;>
      simp [Report.transcript, hnone, report_notRebuilt]
  · by_cases hnone : failing s.log = 0 <;> simp [Report.transcript, hnone]

/-! ### A session alone -/

theorem streamOf_streamOf (sessionId : String) (log : List Event) :
    streamOf sessionId (streamOf sessionId log) = streamOf sessionId log := by
  simp [streamOf]

theorem viewLine?_streamOf (sessionId : String) (log : List Event) :
    viewLine? sessionId (streamOf sessionId log) = viewLine? sessionId log := by
  rw [viewLine?, replay, streamOf_streamOf, viewLine?, replay]

theorem inOrder_streamOf (h : InOrder events) (sessionId : String) :
    InOrder (streamOf sessionId events) where
  positive e he := h.positive e (List.mem_filter.mp he).1
  increasing key := (h.increasing key).sublist (List.filter_sublist.filter _)

/-- The events of one session have its id only. -/
theorem sessionIds_streamOf (h : sessionId ∈ sessionIds events) :
    (sessionIds (streamOf sessionId events)).eraseDups = [sessionId] := by
  obtain ⟨e, he, hkey⟩ := mem_sessionIds.mp h
  have hsame : ∀ id ∈ sessionIds (streamOf sessionId events), id = sessionId := by
    intro id hid
    obtain ⟨x, hx, hid⟩ := mem_sessionIds.mp hid
    have hown := beq_iff_eq.mp (List.mem_filter.mp hx).2
    exact (StreamKey.mk.inj (hid.symm.trans hown)).2
  have hmem : sessionId ∈ sessionIds (streamOf sessionId events) :=
    mem_sessionIds.mpr ⟨e, List.mem_filter.mpr ⟨he, beq_iff_eq.mpr hkey⟩, hkey⟩
  cases hids : sessionIds (streamOf sessionId events) with
  | nil =>
    rw [hids] at hmem
    cases hmem
  | cons id ids =>
    rw [hids] at hsame
    obtain ⟨rfl, hrest⟩ := List.forall_mem_cons.mp hsame
    have hnone : ids.filter (fun id' => !id' == id) = [] :=
      List.filter_eq_nil_iff.mpr fun id' hid' => by simp [hrest id' hid']
    rw [List.eraseDups_cons, hnone, List.eraseDups_nil]

/-- A run over the events of one session prints the line of that session. -/
theorem Prints.of_alone {t : Transcript} (h : Prints (streamOf sessionId events) t)
    (hid : sessionId ∈ sessionIds events) : t.output = (viewLine? sessionId events).toList := by
  rw [h.output, sessionIds_streamOf hid, ← viewLine?_streamOf]
  cases hline : viewLine? sessionId (streamOf sessionId events) <;> simp [hline]

/-! ### Every text -/

/-- The transcript of a run that is given a text to inspect. -/
theorem transcript_eq {arguments : List String} {settings : Except SettingsFault Settings}
    {read : String → Except String ByteArray} (hpath : logPath arguments settings = .ok path)
    (hread : read path = .ok text.toUTF8) :
    transcript arguments settings read = (inspect path text).transcript := by
  have htext : String.fromUTF8? text.toUTF8 = some text := by
    have hvalid : text.toUTF8.IsValidUTF8 := text.isValidUTF8
    rw [String.fromUTF8?, dif_pos hvalid]
    rfl
  rw [transcript, hpath]
  simp only [inspectBytes, hread, htext]

theorem prints_transcript (hreads : Reads text events) (horder : InOrder events) (path : String) :
    Prints events (inspect path text).transcript := by
  obtain ⟨s, himport⟩ := Store.exists_ofEvents_iff.mpr horder
  obtain ⟨-, rfl, -⟩ := Store.of_ofEvents himport
  simp only [inspect, readEvents_of_reads hreads, himport]
  exact prints_report horder

/-- **The inspector reports each session on its own.** A run is given a text. If some line of it is
neither blank nor an event, the run fails and names the first, and prints nothing. If the events of
the text are out of order, it fails and says so, and prints nothing. Otherwise it prints a line for
each session that can be replayed, in the order in which they first appear, with the facts that
follow from the session's own events; and it fails just if there are others, and says how many. What
it prints of a session is what it prints when it is given the events of that session alone. -/
theorem inspects_each_alone {arguments : List String} {settings : Except SettingsFault Settings}
    {read : String → Except String ByteArray} {path text : String}
    (hpath : logPath arguments settings = .ok path) (hread : read path = .ok text.toUTF8) :
    ((∃ number, FirstFaulty (lines text) number) ∨ ∃ events, Reads text events) ∧
      (∀ number, FirstFaulty (lines text) number →
        transcript arguments settings read =
          ⟨[], some ("Error: Invalid event on line " ++ toString number ++ " of " ++ path), 1⟩) ∧
      (∀ events, Reads text events → ¬ InOrder events →
        ∃ e, Store.ofEvents events = .error e ∧
          transcript arguments settings read =
            ⟨[], some ("Error: Event log " ++ path ++ " is out of order" ++
              "\n\nCaused by:\n    " ++ e.message), 1⟩) ∧
      (∀ events, Reads text events → InOrder events →
        Prints events (transcript arguments settings read)) ∧
      ∀ events sessionId, Reads text events → InOrder events → sessionId ∈ sessionIds events →
        ∀ (read' : String → Except String ByteArray) (text' : String),
          read' path = .ok text'.toUTF8 → Reads text' (streamOf sessionId events) →
          (transcript arguments settings read').output = (viewLine? sessionId events).toList := by
  rw [transcript_eq hpath hread]
  refine ⟨firstFaulty_or_reads text, fun number hfaulty => ?_, fun events hreads hdisorder => ?_,
    fun events hreads horder => prints_transcript hreads horder path,
    fun events sessionId hreads horder hid read' text' hread' halone => ?_⟩
  · simp only [inspect, readEvents_of_firstFaulty hfaulty, ← report_invalidLine]
    rfl
  · cases himport : Store.ofEvents events with
    | error e =>
      refine ⟨e, rfl, ?_⟩
      simp only [inspect, readEvents_of_reads hreads, himport, ← report_outOfOrder]
      rfl
    | ok s => exact absurd (Store.of_ofEvents himport).1 hdisorder
  · rw [transcript_eq hpath hread']
    exact (prints_transcript halone (inOrder_streamOf horder sessionId) path).of_alone hid

/-- A line of a log with an event in its short form. -/
def shortLine (aggregateType aggregateId kind data position : String) : String :=
  "[\"" ++ aggregateType ++ "\",\"" ++ aggregateId ++ "\",\"\",\"" ++ kind ++ "\"," ++ data ++
    "," ++ position ++ ",\"1970-01-01T00:00:00Z\",\"\"]\n"

/-- The events of two sessions, of which one cannot be replayed, and of something else that has the
id of the other. One line is blank. -/
def mixedText : String :=
  shortLine "session" "b" "session.added" "0" "1" ++ "\n" ++
    shortLine "user" "a" "added" "0" "7" ++ shortLine "session" "a" "session.added" "null" "1" ++
    shortLine "session" "a" "session.password.checked" "\x7b\x7d" "4"

/-- The events of that text. -/
def mixedEvents : List Event :=
  let event (type id kind : String) (data : Json) (position : UInt64) : Event :=
    ⟨type, id, "", kind, data, position, .epoch, ""⟩
  [event "session" "b" "session.added" (.int 0) 1, event "user" "a" "added" (.int 0) 7,
    event "session" "a" "session.added" .null 1,
    event "session" "a" "session.password.checked" (.obj []) 4]

theorem inspects_each_alone_mixed :
    logPath ["log"] (.ok {}) = .ok "log" ∧ Reads mixedText mixedEvents ∧ InOrder mixedEvents ∧
      (transcript ["log"] (.ok {}) fun _ => .ok mixedText.toUTF8).output =
        ["\x7b\"session_id\":\"a\",\"state\":\"active\",\"user_id\":null," ++
          "\"authentication_instant\":\"1970-01-01T00:00:00Z\",\"factors\":[\"password\"]," ++
          "\"has_challenge\":false,\"expiration\":null,\"position\":4\x7d"] ∧
      (transcript ["log"] (.ok {}) fun _ => .ok mixedText.toUTF8).complaint =
        some "Error: 1 session(s) failed to replay" ∧
      (transcript ["log"] (.ok {}) fun _ => .ok mixedText.toUTF8).exitCode = 1 ∧
      FirstFaulty (lines "\n \nx\n") 3 ∧
      transcript ["log"] (.ok {}) (fun _ => .ok "\n \nx\n".toUTF8) =
        ⟨[], some "Error: Invalid event on line 3 of log", 1⟩ := by
  have hread : readEvents "log" mixedText = .ok mixedEvents := by decide +kernel
  have hreads : Reads mixedText mixedEvents := reads_of_readEvents hread
  have horder : InOrder mixedEvents := Store.exists_ofEvents_iff.mp ⟨_, rfl⟩
  have hfaulty : FirstFaulty (lines "\n \nx\n") 3 :=
    ⟨[[], [' ']], ['x'], [], by decide, rfl, by decide +kernel, by decide +kernel⟩
  have hpath : logPath ["log"] (.ok {}) = .ok "log" := rfl
  obtain ⟨-, -, -, hprints, -⟩ := @inspects_each_alone ["log"] (.ok {})
    (fun _ => .ok mixedText.toUTF8) "log" mixedText hpath rfl
  obtain ⟨-, hnames, -⟩ := @inspects_each_alone ["log"] (.ok {})
    (fun _ => .ok "\n \nx\n".toUTF8) "log" "\n \nx\n" hpath rfl
  obtain ⟨houtput, hcomplaint, hexit⟩ := hprints mixedEvents hreads horder
  have hids : (sessionIds mixedEvents).eraseDups = ["b", "a"] := by decide
  have hfailing : failing mixedEvents = 1 := by decide
  have hmalformed : viewLine? "b" mixedEvents = none := rfl
  obtain ⟨m, hreplay, hstate, huser, hauthenticated, hfactors, hchallenge, hexpiration, hposition⟩ :
      ∃ m, replay "a" mixedEvents = .ok m ∧ m.facts.state = .active ∧ m.facts.userId = none ∧
        m.facts.authenticationInstant = some .epoch ∧ m.facts.factors = [.password] ∧
        m.facts.challenge = none ∧ m.facts.expiration = none ∧ m.position = 4 :=
    ⟨_, rfl, rfl, rfl, rfl, rfl, rfl, rfl, rfl⟩
  have hepoch : Instant.epoch.write = "1970-01-01T00:00:00Z" := by decide
  have hline : viewLine? "a" mixedEvents = some (viewLine "a" m) := by rw [viewLine?, hreplay]; rfl
  rw [hfailing] at hcomplaint hexit
  refine ⟨hpath, hreads, horder, ?_, hcomplaint, hexit, hfaulty, hnames 3 hfaulty⟩
  have hlines : ["b", "a"].filterMap (viewLine? · mixedEvents) = [viewLine "a" m] := by
    simp [hmalformed, hline]
  rw [houtput, hids, hlines, viewLine, hstate, huser, hauthenticated, hfactors, hchallenge,
    hexpiration, hposition]
  simp only [textOrNull, Option.map_some, Option.map_none, Option.elim_some, Option.elim_none,
    hepoch, SessionState.name, Factor.name, List.map_cons, List.map_nil,
    Json.quote_of_plain (s := "a") (by decide), Json.quote_of_plain (s := "active") (by decide),
    Json.quote_of_plain (s := "1970-01-01T00:00:00Z") (by decide),
    Json.quote_of_plain (s := "password") (by decide)]
  rfl

end Inspector

end SessionLedger
