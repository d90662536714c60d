import ScriptAudit.Check
import ScriptAudit.Number.DigitLimit
import ScriptAudit.Text.Search

/-!
# Settings

What a run is told: which checks are switched on, the numeric limits, the lists of patterns, the
numbers that need no name, and whether the arms of a `match` count as decisions.

Settings are taken as they are.  A limit may be negative, and the milder limit of a pair may lie
above the graver one; the checks concerned then fire always or never.

## Main definitions

* `ScriptAudit.Limit`, `ScriptAudit.PatternList` — the numeric limits and the lists of patterns.
* `ScriptAudit.Settings` — the settings of a run, with the defaults.
* `ScriptAudit.Settings.excludes` — whether a path is left out of a run.
* `ScriptAudit.Settings.inverted`, `ScriptAudit.Settings.inversions` — the pairs of limits that
  stand the wrong way round, and the remarks about them.
-/

set_option autoImplicit false

namespace ScriptAudit

open Text Number

/-- The numeric limits. -/
inductive Limit where
  /-- Lines of a file, above which it is warned of. -/
  | fileSoft
  /-- Lines of a file, above which it is critical. -/
  | fileHard
  /-- Lines of a function, above which it is warned of. -/
  | functionLong
  /-- Lines of a function, above which it is critical. -/
  | functionCritical
  /-- Complexity of a function, above which it is warned of. -/
  | complexityWarning
  /-- Complexity of a function, above which it is critical. -/
  | complexityCritical
  /-- Parameters of a function. -/
  | parameters
  /-- Levels of nesting in a function. -/
  | nesting
  /-- Characters of a line. -/
  | lineLength
  /-- Public functions of a class. -/
  | publicFunctions
  /-- Signals of a class. -/
  | signals
  deriving DecidableEq

namespace Limit

/-- All limits, in the order of the settings. -/
def all : List Limit :=
  [fileSoft, fileHard, functionLong, functionCritical, complexityWarning, complexityCritical,
   parameters, nesting, lineLength, publicFunctions, signals]

/-- The name of the setting. -/
def name : Limit → String
  | fileSoft => "file_line_soft"
  | fileHard => "file_line_hard"
  | functionLong => "function_line_limit"
  | functionCritical => "function_line_critical"
  | complexityWarning => "cyclomatic_warning"
  | complexityCritical => "cyclomatic_critical"
  | parameters => "max_parameters"
  | nesting => "max_nesting"
  | lineLength => "max_line_length"
  | publicFunctions => "god_class_functions"
  | signals => "god_class_signals"

/-- The value of a limit that nobody set. -/
def standard : Limit → Int
  | fileSoft => 200
  | fileHard => 300
  | functionLong => 30
  | functionCritical => 60
  | complexityWarning => 10
  | complexityCritical => 15
  | parameters => 4
  | nesting => 3
  | lineLength => 120
  | publicFunctions => 20
  | signals => 10

/-- The pairs of a milder and a graver limit on the same quantity. -/
def pairs : List (Limit × Limit) :=
  [(fileSoft, fileHard), (functionLong, functionCritical), (complexityWarning, complexityCritical)]

end Limit

/-- The lists of patterns. -/
inductive PatternList where
  /-- Fragments of the paths that a run leaves out. -/
  | excludedPaths
  /-- Markers for work to be done. -/
  | todoMarkers
  /-- Beginnings of calls that print. -/
  | printCalls
  /-- Fragments that make a printing line acceptable. -/
  | printWhitelist
  /-- Beginnings of code that was commented out. -/
  | commentedCode
  deriving DecidableEq

namespace PatternList

/-- The name of the setting. -/
def name : PatternList → String
  | excludedPaths => "excluded_paths"
  | todoMarkers => "todo_patterns"
  | printCalls => "print_patterns"
  | printWhitelist => "print_whitelist"
  | commentedCode => "commented_code_patterns"

/-- The entries of a list that nobody set. -/
def standard : PatternList → List String
  | excludedPaths => ["addons/", ".godot/", ".import/"]
  | todoMarkers => ["TODO", "FIXME", "HACK", "XXX", "BUG", "TEMP"]
  | printCalls => ["print(", "print_debug(", "print_rich(", "prints(", "printt(", "printraw("]
  | printWhitelist => ["Log.", "Logger.", "DebugLogger"]
  | commentedCode =>
    ["#var ", "#func ", "#const ", "#signal ", "#if ", "#elif ", "#for ", "#while ", "#match ",
     "#return", "#await ", "#print(", "#self."]

end PatternList

/-- The settings of a run. -/
structure Settings where
  /-- Whether a check is switched on. -/
  enabled : Check → Bool := fun _ => true
  /-- The numeric limits. -/
  limit : Limit → Int := Limit.standard
  /-- The lists of patterns. -/
  patterns : PatternList → List String := PatternList.standard
  /-- The numbers that may stand in code without a name. -/
  allowedNumbers : List Float := [0.0, 1.0, -1.0, 2.0, 0.5, 10.0, 100.0]
  /-- Whether each further arm of a `match` counts as a decision. -/
  countMatchArms : Bool := false

namespace Settings

/-- Whether a path holds one of the excluded fragments. -/
def excludes (settings : Settings) (path : String) : Bool :=
  (settings.patterns .excludedPaths).any fun fragment => occursIn fragment.toList path.toList

/-- The pairs of limits whose milder limit exceeds the graver one. -/
def inverted (settings : Settings) : List (Limit × Limit) :=
  Limit.pairs.filter fun (soft, hard) => decide (settings.limit soft > settings.limit hard)

/-- A remark for every pair of limits whose milder limit exceeds the graver one. -/
def inversions (settings : Settings) : List String :=
  settings.inverted.map fun (soft, hard) =>
    soft.name ++ " (" ++ toString (settings.limit soft) ++ ") is greater than " ++
      hard.name ++ " (" ++ toString (settings.limit hard) ++ ")"

/-- Whether the limits in all these remarks may be written. -/
def hasWritableInversions (settings : Settings) : Bool :=
  settings.inverted.all fun (soft, hard) =>
    digitLimit.admits (settings.limit soft) && digitLimit.admits (settings.limit hard)

end Settings

end ScriptAudit
