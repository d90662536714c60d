import ScriptAudit.Function.Metrics
import ScriptAudit.Issue

/-!
# Checks of functions

Six checks look at the metrics of one function.  Length and complexity have two limits, the graver
one taking precedence.

## Main definitions

* `ScriptAudit.FunctionCheck` — the checks of functions, in the order in which they run.
* `ScriptAudit.Settings.excess?` — which of two limits a number exceeds.
* `ScriptAudit.FunctionCheck.judge` — the finding of a check on a function, if there is one.
-/

set_option autoImplicit false

namespace ScriptAudit

/-- The severity with which a number exceeds a pair of limits, and the limit that it exceeds.  The
graver limit is looked at first. -/
def Settings.excess? (settings : Settings) (soft hard : Limit) (n : Int) :
    Option (Severity × Int) :=
  if n > settings.limit hard then some (.critical, settings.limit hard)
  else if n > settings.limit soft then some (.warning, settings.limit soft)
  else none

/-- Whether a number exceeds a limit. -/
def Settings.exceeds (settings : Settings) (limit : Limit) (n : Int) : Bool :=
  decide (n > settings.limit limit)

/-- The checks of functions. -/
inductive FunctionCheck where
  /-- Functions with too many lines. -/
  | longFunction
  /-- Functions with too many decision points. -/
  | highComplexity
  /-- Functions with too many parameters. -/
  | tooManyParams
  /-- Functions that are nested too deeply. -/
  | deepNesting
  /-- Functions that do nothing. -/
  | emptyFunction
  /-- Functions that state no return type. -/
  | missingReturnType
  deriving DecidableEq

namespace FunctionCheck

/-- All checks of functions, in the order in which they run. -/
def all : List FunctionCheck :=
  [longFunction, highComplexity, tooManyParams, deepNesting, emptyFunction, missingReturnType]

/-- The check as one of all checks. -/
def check : FunctionCheck → Check
  | longFunction => .longFunction
  | highComplexity => .highComplexity
  | tooManyParams => .tooManyParams
  | deepNesting => .deepNesting
  | emptyFunction => .emptyFunction
  | missingReturnType => .missingReturnType

/-- The beginning of every message about a function. -/
def subject (metrics : Metrics) : String := "Function '" ++ metrics.name ++ "'"

/-- Finds a function with too many lines. -/
def judgeLength (settings : Settings) (metrics : Metrics) : Option Finding :=
  (settings.excess? .functionLong .functionCritical metrics.lineCount).map
    fun (severity, limit) =>
      ⟨severity, subject metrics ++ s!" has {metrics.lineCount} lines (max {limit})"⟩

/-- Finds a function with too many decision points. -/
def judgeComplexity (settings : Settings) (metrics : Metrics) : Option Finding :=
  (settings.excess? .complexityWarning .complexityCritical metrics.complexity).map
    fun (severity, limit) =>
      ⟨severity,
        subject metrics ++ s!" has cyclomatic complexity {metrics.complexity} (max {limit})"⟩

/-- Finds a function with too many parameters. -/
def judgeParameters (settings : Settings) (metrics : Metrics) : Option Finding :=
  let limit := settings.limit .parameters
  if settings.exceeds .parameters metrics.parameterCount then
    some ⟨.warning, subject metrics ++ s!" has {metrics.parameterCount} parameters (max {limit})"⟩
  else none

/-- Finds a function that is nested too deeply. -/
def judgeNesting (settings : Settings) (metrics : Metrics) : Option Finding :=
  let limit := settings.limit .nesting
  if settings.exceeds .nesting metrics.nesting then
    some ⟨.warning, subject metrics ++ s!" has nesting depth {metrics.nesting} (max {limit})"⟩
  else none

/-- Finds a function that does nothing. -/
def judgeEmptiness (metrics : Metrics) : Option Finding :=
  if metrics.isEmpty then some ⟨.info, subject metrics ++ " is empty"⟩ else none

/-- Finds a public function that states no return type. -/
def judgeReturnType (metrics : Metrics) : Option Finding :=
  if metrics.hasReturnType || isPrivateName metrics.name then none
  else some ⟨.info, subject metrics ++ " has no return type"⟩

/-- The finding of a check on a function, if there is one. -/
def judge (settings : Settings) (metrics : Metrics) : FunctionCheck → Option Finding
  | longFunction => judgeLength settings metrics
  | highComplexity => judgeComplexity settings metrics
  | tooManyParams => judgeParameters settings metrics
  | deepNesting => judgeNesting settings metrics
  | emptyFunction => judgeEmptiness metrics
  | missingReturnType => judgeReturnType metrics

end FunctionCheck

end ScriptAudit
