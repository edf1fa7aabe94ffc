import SessionLedger.Inspector

/-!
# The command line

Prints the view of every session in an exported log, one to a line. The log is the first argument,
or what the settings say; the settings come from `config/default.toml` and from the environment,
which a `.env` file may add to. Here is only what has to be fetched from the system for a run, and
how its transcript is carried out.
-/

namespace SessionLedger

namespace CommandLine

/-- The system's reason why a file could not be read. -/
def reason : IO.Error → String
  | .noFileOrDirectory .. => "No such file or directory (os error 2)"
  | .permissionDenied .. => "Permission denied (os error 13)"
  | .inappropriateType _ 20 _ => "Not a directory (os error 20)"
  | .inappropriateType .. => "Is a directory (os error 21)"
  | .invalidArgument _ 36 _ => "File name too long (os error 36)"
  | e => toString e

/-- The bytes of a file, or the system's reason. -/
def readBytes (path : String) : IO (Except String ByteArray) := do
  try
    return .ok (← IO.FS.readBinFile path)
  catch e =>
    return .error (reason e)

/-- The bytes of the first file that is there. -/
def readFirst : List String → IO (Option ByteArray)
  | [] => return none
  | path :: rest => do
    match ← readBytes path with
    | .ok bytes => return some bytes
    | .error _ => readFirst rest

/-- One entry of the environment. -/
def assignment (entry : String) : Option (String × String) :=
  match entry.toList.span (· != '=') with
  | (name, _ :: value) => some (String.ofList name, String.ofList value)
  | (_, []) => none

/-- The environment as the system shows it, in entries that end with NUL. -/
def environment : IO Dotenv.Variables := do
  let text := ((← readFirst ["/proc/self/environ"]).bind String.fromUTF8?).getD ""
  return (text.splitOn "\x00").filterMap assignment

/-- What is at the path of the log, if one is named. -/
def readLog (path : Except Inspector.Failure String) : IO (Except String ByteArray) :=
  match path with
  | .ok path => readBytes path
  | .error _ => return .error ""

/-- Prints what a run leaves behind, and returns its exit code. -/
def carryOut (t : Inspector.Transcript) : IO UInt32 := do
  t.output.forM IO.println
  t.complaint.forM IO.eprintln
  return t.exitCode

/-- Runs the inspector. -/
def run (arguments : List String) : IO UInt32 := do
  let vars ← environment
  let vars := (← readFirst [".env"]).elim vars fun bytes =>
    Dotenv.extend vars (Dotenv.textOfBytes bytes)
  let settings := Settings.loadBytes (← readFirst Settings.files) vars
  -- No other path is read for the transcript.
  let content ← readLog (Inspector.logPath arguments settings)
  carryOut (Inspector.transcript arguments settings fun _ => content)

end CommandLine

end SessionLedger

/-- The program. -/
def main (arguments : List String) : IO UInt32 := SessionLedger.CommandLine.run arguments
