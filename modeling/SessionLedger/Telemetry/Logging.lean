/-!
# Log settings

How the library's log lines are written: which of them, in which form, and whether spans are
reported.

## Main definitions

* `LogSettings` — the settings, by default plain lines from the level `info` on
* `LogSettings.ofVariables` — the settings that environment variables ask for
-/

namespace SessionLedger

/-- How log lines are written. -/
structure LogSettings where
  /-- Which lines, by level and origin. -/
  filter : String := "info"
  /-- Whether lines are JSON objects. -/
  json : Bool := false
  /-- Whether the begin and the end of spans are reported. -/
  spanEvents : Bool := false
deriving DecidableEq, Repr

namespace LogSettings

/-- Whether a text says yes: `1`, or `true` in any case. -/
def isYes (s : String) : Bool := s == "1" || s.map Char.toLower == "true"

/-- The settings that two variables ask for, each of which may be unset. -/
def ofVariables (logJson filter : Option String) : LogSettings :=
  { filter := filter.getD "info", json := logJson.any isYes }

end LogSettings

end SessionLedger
