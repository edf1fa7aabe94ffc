import SessionLedger.Settings.Dotenv
import SessionLedger.Settings.Key
import SessionLedger.Settings.Value
import SessionLedger.Toml.Document

/-!
# Settings of the inspector

Where the inspector finds its log and how it reports: from defaults, a settings file and environment
variables, of which the later ones win. A variable is a setting if its name begins with `SESSION__`
in any case; the rest of its name is the key, with two underscores between a table and its key.

## Main definitions

* `Settings` — the settings
* `Settings.files` — where the settings file may be
* `Settings.load`, `Settings.loadBytes` — the settings of a file and of variables
-/

namespace SessionLedger

/-- The settings of the inspector. -/
structure Settings where
  logFilter : String := "info"
  logJson : Bool := false
  /-- The log to be replayed. -/
  replayPath : Option String := none
deriving DecidableEq, Repr

/-- Why there are no settings. -/
inductive SettingsFault where
  /-- The settings file is malformed. -/
  | unreadable
  /-- A setting has a value of another type. -/
  | mistyped
deriving DecidableEq, Repr

/-- The wording of a fault. -/
def SettingsFault.message : SettingsFault → String
  | unreadable => "Failed to build configuration"
  | mistyped => "Failed to deserialize configuration"

namespace Settings

/-- Where the settings file may be; the first one that is there counts. -/
def files : List String := ["config/default", "config/default.toml"]

/-- What a settings variable begins with, in lower case. -/
def variablePrefix : List Char := "session__".toList

/-- Puts a point in place of each pair of underscores. -/
def keyOf : List Char → List Char
  | '_' :: '_' :: rest => '.' :: keyOf rest
  | c :: rest => c :: keyOf rest
  | [] => []

/-- The assignment of a value to a key. A value for a part of a setting makes it a table or list. -/
def assignment (key : String) (v : Option SettingValue) : Option (String × SettingValue) :=
  match SettingKey.ofString key with
  | .whole name => v.map fun v => (name, v)
  | .part name => some (name, .compound)

/-- The assignment that a variable makes, if it is for a setting. -/
def ofVariable (v : String × String) : Option (String × SettingValue) :=
  let name := (v.1.map Char.toLower).toList
  if variablePrefix.isPrefixOf name then
    assignment (String.ofList (keyOf (name.drop variablePrefix.length))) (some (.guess v.2))
  else none

/-- The assignments that a settings file makes. -/
def ofMembers (members : Toml.Members) : List (String × SettingValue) :=
  members.filterMap fun (key, v) => assignment key (SettingValue.ofToml? v)

/-- The last value that is assigned to a key. -/
def lastValue (assignments : List (String × SettingValue)) (key : String) : Option SettingValue :=
  assignments.reverse.lookup key

/-- The settings of some assignments, of which the later ones win. -/
def ofAssignments (assignments : List (String × SettingValue)) : Except SettingsFault Settings := do
  let logFilter ← match lastValue assignments "log_filter" with
    | none => .ok "info"
    | some v => v.text?.elim (.error .mistyped) .ok
  let logJson ← match lastValue assignments "log_json" with
    | none => .ok false
    | some v => v.bool?.elim (.error .mistyped) .ok
  let replayPath ← match lastValue assignments "replay_path" with
    | none => .ok none
    | some v => v.text?.elim (.error .mistyped) fun s => .ok (some s)
  return { logFilter, logJson, replayPath }

/-- The settings of a settings file, which may be missing, and of variables. -/
def load (file : Option String) (vars : Dotenv.Variables) : Except SettingsFault Settings :=
  match file.elim (some []) Toml.read with
  | none => .error .unreadable
  | some members => ofAssignments (ofMembers members ++ vars.filterMap ofVariable)

/-- The settings of the bytes of a settings file, which counts as missing if it is not UTF-8, and of
variables. -/
def loadBytes (file : Option ByteArray) (vars : Dotenv.Variables) :
    Except SettingsFault Settings :=
  load (file.bind String.fromUTF8?) vars

end Settings

end SessionLedger
