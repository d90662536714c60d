import ScriptAudit.Checks.File
import ScriptAudit.Checks.Line

/-!
# Scanning a script

The issues of a script before any directive is taken into account, and what else its lines tell:
signals, loaded resources, exported properties, functions.

Which checks of lines and functions run, and in which order, may be chosen; a check that is switched
off in the settings does not run in any case.

## Main definitions

* `ScriptAudit.LineScan`, `ScriptAudit.LineScan.run` — the scan of all lines.
* `ScriptAudit.FunctionScan`, `ScriptAudit.FunctionScan.run` — the scan of all functions.
* `ScriptAudit.ClassScan`, `ScriptAudit.ClassScan.run` — the scan of the class as a whole.
-/

set_option autoImplicit false

namespace ScriptAudit

open Text Script

/-- The issue of a check on a line of a file, if the check is switched on and has a finding. -/
def issueOf (settings : Settings) (file : String) (line : Int) (check : Check)
    (finding : Option Finding) : Option Issue :=
  if settings.enabled check then finding.map fun finding => finding.at file line check else none

/-! ## Lines -/

/-- What the lines of a script tell. -/
structure LineScan where
  /-- The issues of the lines, that of the number of lines coming first. -/
  issues : List Issue
  /-- The signals that are declared. -/
  signals : List String
  /-- The paths of the resources that are loaded. -/
  dependencies : List String
  /-- The number of exported properties. -/
  exportCount : Nat
  deriving DecidableEq

namespace LineScan

/-- The issues of one line, in the order of the given checks. -/
def issuesOn (settings : Settings) (file : String) (checks : List LineCheck) (line : Line) :
    List Issue :=
  checks.filterMap fun check =>
    issueOf settings file line.number check.check (check.judge settings line)

/-- The issues of all lines. -/
def issuesIn (settings : Settings) (file : String) (checks : List LineCheck) (lines : List Line) :
    List Issue :=
  lines.flatMap (issuesOn settings file checks)

/-- The resources that a line loads; a comment loads none. -/
def loadsOn (raw : List Char) : List (List Char) :=
  let text := trim raw
  if isComment text then [] else loadedPaths text

/-- Scans the lines of a script. -/
def run (settings : Settings) (file : String) (checks : List LineCheck)
    (script : List (List Char)) : LineScan where
  issues :=
    (issueOf settings file 1 .fileLength (FileCheck.judgeLength settings script.length)).toList
      ++ issuesIn settings file checks (numbered 1 script)
  signals := (script.filterMap fun raw => declaredName? .signal (trim raw)).map String.ofList
  dependencies := (script.flatMap loadsOn).map String.ofList
  exportCount := script.countP fun raw => isExported (trim raw)

end LineScan

/-! ## Functions -/

/-- What the functions of a script tell. -/
structure FunctionScan where
  /-- The metrics of the functions. -/
  functions : List Metrics
  /-- The issues of the functions. -/
  issues : List Issue
  deriving DecidableEq

namespace FunctionScan

/-- The issues of one function, in the order of the given checks. -/
def issuesOf (settings : Settings) (file : String) (checks : List FunctionCheck)
    (metrics : Metrics) : List Issue :=
  checks.filterMap fun check =>
    issueOf settings file metrics.startLine check.check (check.judge settings metrics)

/-- Scans the functions of a script. -/
def run (settings : Settings) (file : String) (checks : List FunctionCheck)
    (script : List (List Char)) : FunctionScan :=
  let functions := (Segment.ofLines script).map (Segment.measure settings)
  ⟨functions, functions.flatMap (issuesOf settings file checks)⟩

end FunctionScan

/-! ## The class as a whole -/

/-- What a class as a whole tells. -/
structure ClassScan where
  /-- The issue of its size, if there is one. -/
  issues : List Issue
  /-- The number of its public functions. -/
  publicFunctions : Nat
  /-- The number of its signals. -/
  signalCount : Nat
  deriving DecidableEq

/-- Scans a class, given its functions and signals. -/
def ClassScan.run (settings : Settings) (file : String) (functions : List Metrics)
    (signals : List String) : ClassScan :=
  let publicFunctions := functions.countP Metrics.isPublic
  let finding := FileCheck.judgeClass settings publicFunctions signals.length
  ⟨(issueOf settings file 1 .godClass finding).toList, publicFunctions, signals.length⟩

end ScriptAudit
