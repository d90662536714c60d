import ScriptAudit.Checks.Function

/-!
# Checks of a whole file

Two checks look at a script as a whole: its number of lines, and the number of its public functions
and signals.  Their findings stand on the first line.

## Main definitions

* `ScriptAudit.FileCheck.judgeLength` — the finding on the number of lines.
* `ScriptAudit.FileCheck.judgeClass` — the finding on the size of the class.
-/

set_option autoImplicit false

namespace ScriptAudit.FileCheck

/-- Finds a script with too many lines. -/
def judgeLength (settings : Settings) (lineCount : Int) : Option Finding :=
  (settings.excess? .fileSoft .fileHard lineCount).map fun (severity, limit) =>
    let word := if severity = .critical then "critical threshold" else "threshold"
    ⟨severity, s!"File has {lineCount} lines ({word}: {limit})"⟩

/-- Finds a class with too many public functions or too many signals, naming all that is
exceeded. -/
def judgeClass (settings : Settings) (publicFunctions signals : Nat) : Option Finding :=
  let maxFunctions := settings.limit .publicFunctions
  let maxSignals := settings.limit .signals
  let reasons :=
    (if settings.exceeds .publicFunctions publicFunctions then
      [s!"{publicFunctions} public functions (max {maxFunctions})"] else [])
    ++ (if settings.exceeds .signals signals then
      [s!"{signals} signals (max {maxSignals})"] else [])
  if reasons.isEmpty then none
  else some ⟨.warning, "God class: " ++ ", ".intercalate reasons⟩

end ScriptAudit.FileCheck
