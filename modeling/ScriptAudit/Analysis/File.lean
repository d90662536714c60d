import ScriptAudit.Analysis.Debt
import ScriptAudit.Analysis.Scan
import ScriptAudit.Suppression.Build

/-!
# Analysis of a file

The scans of a script give its candidate issues; the suppression index parts them into those that
are reported and those that are ignored.

## Main definitions

* `ScriptAudit.FileReport` — the outcome of the analysis of a file.
* `ScriptAudit.Selection` — which checks of lines and functions run.
* `ScriptAudit.FileReport.ofIndex` — the analysis under a given suppression index.
* `ScriptAudit.FileReport.ofLines`, `ScriptAudit.FileReport.ofSource` — the analysis of a file under
  its own index.
-/

set_option autoImplicit false

namespace ScriptAudit

/-- The outcome of the analysis of a file. -/
structure FileReport where
  /-- The path of the file. -/
  file : String
  /-- The number of its lines. -/
  lineCount : Int
  /-- The issues that are reported. -/
  issues : List Issue := []
  /-- The issues that a directive suppresses. -/
  ignored : List Issue := []
  /-- The metrics of its functions. -/
  functions : List Metrics := []
  /-- The signals that it declares. -/
  signals : List String := []
  /-- The paths of the resources that it loads. -/
  dependencies : List String := []
  /-- The number of its exported properties. -/
  exportCount : Int := 0
  /-- Its technical debt. -/
  debt : Int := 0
  /-- The lines of directives without effect. -/
  unmatched : List Int := []
  deriving DecidableEq

/-- Which checks of lines and functions run, and in which order. -/
structure Selection where
  /-- The checks of lines. -/
  line : List LineCheck := LineCheck.all
  /-- The checks of functions. -/
  function : List FunctionCheck := FunctionCheck.all

namespace FileReport

/-- The number of public functions of a file. -/
def publicFunctionCount (report : FileReport) : Nat := report.functions.countP Metrics.isPublic

/-- The reported issues of one check. -/
def issuesOf (report : FileReport) (check : Check) : List Issue :=
  report.issues.filter (·.check == check)

/-- All issues of a script before any directive is taken into account: those of its lines, of its
functions, and of the class as a whole. -/
def candidates (settings : Settings) (selection : Selection) (file : String)
    (script : List (List Char)) : List Issue :=
  let lines := LineScan.run settings file selection.line script
  let functions := FunctionScan.run settings file selection.function script
  let whole := ClassScan.run settings file functions.functions lines.signals
  lines.issues ++ functions.issues ++ whole.issues

/-- Parts issues into those that are reported and those that the index hides. -/
def part (index : Suppression) (issues : List Issue) : List Issue × List Issue :=
  issues.partition fun issue => !index.hides issue.line issue.check.id

/-- Analyses a script under a given suppression index. -/
def ofIndex (settings : Settings) (selection : Selection) (file : String)
    (script : List (List Char)) (index : Suppression) : FileReport :=
  let lines := LineScan.run settings file selection.line script
  let functions := FunctionScan.run settings file selection.function script
  let (issues, ignored) := part index (candidates settings selection file script)
  { file := file
    lineCount := script.length
    issues := issues
    ignored := ignored
    functions := functions.functions
    signals := lines.signals
    dependencies := lines.dependencies
    exportCount := lines.exportCount
    debt := Debt.total settings script.length functions.functions
    unmatched := index.unmatched }

/-- Analyses a script under its own suppression index. -/
def ofLines (settings : Settings) (selection : Selection) (file : String)
    (script : List (List Char)) : FileReport :=
  ofIndex settings selection file script (Suppression.ofLines script)

/-- Analyses the text of a script with all checks. -/
def ofSource (settings : Settings) (file source : String) : FileReport :=
  ofLines settings {} file (Script.lines source.toList)

end FileReport

end ScriptAudit
