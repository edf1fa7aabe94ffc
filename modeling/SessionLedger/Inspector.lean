import SessionLedger.Event.Format
import SessionLedger.Json.Writer
import SessionLedger.Session.View
import SessionLedger.Settings.Basic
import SessionLedger.Store.Basic

/-!
# The replay inspector

Rebuilds every session of an exported log and reports its view. The log has one event to a line,
blank lines apart. A line that is no event, or an event out of order, is the end of it; a session
that cannot be rebuilt is left out and counted.

The report becomes what a run of the program leaves behind: the lines that it prints, the text of
its complaint and its exit code. What the reader of events has to say on an invalid line is left out
of the complaint.

## Main definitions

* `Inspector.Failure` — why an inspection failed, with its report
* `Inspector.readEvents` — the events of a log
* `Inspector.inspect` — the views of the sessions in a log, and the failure if there is one
* `Inspector.Transcript`, `Inspector.transcript` — what a run leaves behind
-/

namespace SessionLedger

namespace Inspector

/-- Why an inspection failed. -/
inductive Failure where
  /-- The settings could not be read. -/
  | settings (fault : SettingsFault)
  /-- No log was named. -/
  | noLog
  /-- The log could not be read, with the system's reason. -/
  | unreadable (path reason : String)
  /-- A line of the log is no event. -/
  | invalidLine (number : Nat) (path : String)
  /-- The events of a stream are out of order. -/
  | outOfOrder (path : String) (error : Error)
  /-- So many sessions could not be rebuilt. -/
  | notRebuilt (sessions : Nat)
deriving DecidableEq, Repr

namespace Failure

/-- The wording of a failure. -/
def message : Failure → String
  | settings fault => fault.message
  | noLog => "No event log given: pass a path or set SESSION__REPLAY_PATH"
  | unreadable path _ => "Failed to read event log " ++ path
  | invalidLine number path => "Invalid event on line " ++ toString number ++ " of " ++ path
  | outOfOrder path _ => "Event log " ++ path ++ " is out of order"
  | notRebuilt sessions => toString sessions ++ " session(s) failed to replay"

/-- What is behind a failure. -/
def cause : Failure → Option String
  | unreadable _ reason => some reason
  | outOfOrder _ error => some error.message
  | settings _ | noLog | invalidLine _ _ | notRebuilt _ => none

/-- The report of a failure. -/
def report (f : Failure) : String :=
  "Error: " ++ f.message ++ f.cause.elim "" fun cause => "\n\nCaused by:\n    " ++ cause

end Failure

/-! ### Reading a log -/

/-- A line without the carriage return at its end. -/
def withoutReturn (cs : List Char) : List Char :=
  match cs.reverse with
  | '\r' :: rest => rest.reverse
  | _ => cs

/-- The lines of a text; the end of the last line may be missing. -/
def lines (text : String) : List (List Char) :=
  let parts := text.toList.splitOn '\n'
  let parts := if parts.getLast? = some [] then parts.dropLast else parts
  parts.map withoutReturn

/-- The events of lines from the line of a number on, or the number of the first line that is
neither blank nor an event. -/
def readLines (number : Nat) : List (List Char) → Except Nat (List Event)
  | [] => .ok []
  | line :: rest =>
    if line.all Text.isBlank then readLines (number + 1) rest
    else
      match Event.read (String.ofList line) with
      | .ok e => (readLines (number + 1) rest).map (e :: ·)
      | .error _ => .error number

/-- The events of a log. -/
def readEvents (path text : String) : Except Failure (List Event) :=
  match readLines 1 (lines text) with
  | .ok events => .ok events
  | .error number => .error (.invalidLine number path)

/-! ### Rebuilding sessions -/

/-- The model of a session, as far as it can be rebuilt. -/
def rebuild (store : Store) (sessionId : String) : Except Error Model :=
  let m := Model.new sessionId none
  m.loaded (store.filter m.query)

/-- What an inspection found. -/
structure Report where
  views : List View := []
  failure : Option Failure := none
deriving DecidableEq

/-- The sessions of a store, in the order of their first events. -/
def sessions (store : Store) : List String :=
  (store.aggregates.filter fun key => key.aggregateType == sessionType).map StreamKey.id

/-- The views of the sessions in a store. -/
def report (store : Store) : Report :=
  let rebuilt := (sessions store).map (rebuild store)
  let views := rebuilt.filterMap fun m => m.toOption.map Model.view
  let failed := rebuilt.length - views.length
  ⟨views, if failed = 0 then none else some (.notRebuilt failed)⟩

/-- The views of the sessions in a log. -/
def inspect (path text : String) : Report :=
  match readEvents path text with
  | .error failure => { failure := some failure }
  | .ok events =>
    match Store.ofEvents events with
    | .error e => { failure := some (.outOfOrder path e) }
    | .ok store => report store

/-! ### From arguments and settings -/

/-- The log that is named, on the command line or else in the settings. -/
def logPath (arguments : List String) (settings : Except SettingsFault Settings) :
    Except Failure String :=
  match settings with
  | .error fault => .error (.settings fault)
  | .ok settings =>
    match arguments.head?.orElse fun _ => settings.replayPath with
    | some path => .ok path
    | none => .error .noLog

/-- The inspection of what was read at a path: the bytes of the log, or the system's reason why
there are none. -/
def inspectBytes (path : String) (content : Except String ByteArray) : Report :=
  match content with
  | .error reason => { failure := some (.unreadable path reason) }
  | .ok bytes =>
    match String.fromUTF8? bytes with
    | some text => inspect path text
    | none => { failure := some (.unreadable path "stream did not contain valid UTF-8") }

/-! ### A run of the program -/

/-- What a run leaves behind. -/
structure Transcript where
  /-- The lines that it prints. -/
  output : List String
  /-- The text of its complaint. -/
  complaint : Option String
  exitCode : UInt32
deriving DecidableEq, Repr

/-- A report as it is printed: each view on a line of its own, and the failure as a complaint, with
which the run ends in failure. -/
def Report.transcript (r : Report) : Transcript where
  output := r.views.map fun v => v.toJson.write
  complaint := r.failure.map Failure.report
  exitCode := if r.failure.isSome then 1 else 0

/-- What a run leaves behind that is given arguments and settings, where reading a path gives the
bytes there or the system's reason why there are none. -/
def transcript (arguments : List String) (settings : Except SettingsFault Settings)
    (read : String → Except String ByteArray) : Transcript :=
  match logPath arguments settings with
  | .error failure => ({ failure := some failure } : Report).transcript
  | .ok path => (inspectBytes path (read path)).transcript

end Inspector

end SessionLedger
