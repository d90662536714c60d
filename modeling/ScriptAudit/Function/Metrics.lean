import ScriptAudit.Function.Body
import ScriptAudit.Function.Segment
import ScriptAudit.Script.Signature
import ScriptAudit.Settings.Basic

/-!
# Metrics of functions

What is measured of a function, and how.

## Main definitions

* `ScriptAudit.Metrics` — the numbers that describe a function.
* `ScriptAudit.Segment.doesNothing` — whether a function consists of nothing but `pass`.
* `ScriptAudit.Segment.measure` — the metrics of a segment.
-/

set_option autoImplicit false

namespace ScriptAudit

open Text Script

/-- The numbers that describe a function.  They are integers, as the limits are that they are
compared with; of a measured function none is negative. -/
structure Metrics where
  /-- The name of the function. -/
  name : String := ""
  /-- The number of its declaring line. -/
  startLine : Int := 0
  /-- How many lines it has, the declaring one included. -/
  lineCount : Int := 0
  /-- How many parameters it takes. -/
  parameterCount : Int := 0
  /-- How deeply its body is nested. -/
  nesting : Int := 0
  /-- Its cyclomatic complexity. -/
  complexity : Int := 1
  /-- Whether it does nothing. -/
  isEmpty : Bool := false
  /-- Whether it states a return type. -/
  hasReturnType : Bool := false
  deriving DecidableEq

/-- Whether a name begins with an underscore, which marks what is not meant for others. -/
def isPrivateName (name : String) : Bool := name.toList.head? == some '_'

/-- Whether a function is meant to be called from elsewhere. -/
def Metrics.isPublic (metrics : Metrics) : Bool := !isPrivateName metrics.name

namespace Segment

/-- The statements of a function, one for each line of the body that is not blank, and the one on
the line of the signature. -/
def statements (segment : Segment) : List (List Char) :=
  (segment.body.map trim).filter (!·.isEmpty) ++ (Signature.statement? segment.signature).toList

/-- Whether every statement of a function is `pass`. -/
def doesNothing (segment : Segment) : Bool := segment.statements.all (· == "pass".toList)

/-- The metrics of a segment. -/
def measure (settings : Settings) (segment : Segment) : Metrics where
  name := String.ofList (Signature.name segment.signature)
  startLine := segment.startLine
  lineCount := segment.lineCount
  parameterCount := Signature.parameterCount segment.signature
  nesting := Body.nesting segment.body
  complexity := Body.complexity settings.countMatchArms segment.body
  isEmpty := segment.doesNothing
  hasReturnType := Signature.hasReturnType segment.signature

end Segment

end ScriptAudit
