/-!
# Severities

## Main definitions

* `ScriptAudit.Severity` — how grave an issue is; `Severity.rank` orders severities.
-/

set_option autoImplicit false

namespace ScriptAudit

/-- How grave an issue is. -/
inductive Severity where
  /-- A remark. -/
  | info
  /-- Should be mended. -/
  | warning
  /-- Must be mended. -/
  | critical
  deriving DecidableEq

namespace Severity

/-- All severities, the mildest first. -/
def all : List Severity := [info, warning, critical]

/-- The place of a severity in the order from mild to grave. -/
def rank : Severity → Nat
  | info => 0
  | warning => 1
  | critical => 2

/-- The word for a severity in reports. -/
def label : Severity → String
  | info => "info"
  | warning => "warning"
  | critical => "critical"

/-- The severity with the given label. -/
def ofLabel? (label : String) : Option Severity := all.find? (·.label == label)

end Severity

end ScriptAudit
