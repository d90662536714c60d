import ScriptAudit.Check
import ScriptAudit.Severity

/-!
# Issues

A check that is not satisfied yields a finding: how grave it is and what to say about it.  Put in
its place, a line of a file, a finding is an issue.

## Main definitions

* `ScriptAudit.Finding` — the verdict of a check.
* `ScriptAudit.Issue` — a finding in its place.
-/

set_option autoImplicit false

namespace ScriptAudit

/-- The verdict of a check that is not satisfied. -/
structure Finding where
  /-- How grave the finding is. -/
  severity : Severity
  /-- What the report says about it. -/
  message : String
  deriving DecidableEq

/-- A finding in its place. -/
structure Issue where
  /-- The path of the file. -/
  file : String
  /-- The number of the line. -/
  line : Int
  /-- How grave the issue is. -/
  severity : Severity
  /-- The check that found it. -/
  check : Check
  /-- What the report says about it. -/
  message : String
  deriving DecidableEq

/-- The issue that a finding of a check gives on a line of a file. -/
def Finding.at (finding : Finding) (file : String) (line : Int) (check : Check) : Issue :=
  ⟨file, line, finding.severity, check, finding.message⟩

end ScriptAudit
