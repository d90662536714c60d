import ScriptAudit.Function.Metrics

/-!
# Technical debt

The debt of a script is a weighted sum of the limits that it exceeds.  It is computed from the raw
numbers, so neither switching a check off nor suppressing its issues lowers it.

## Main definitions

* `ScriptAudit.Debt.ofFile`, `ScriptAudit.Debt.ofFunction` — the debt of a number of lines and of a
  function.
* `ScriptAudit.Debt.total` — the debt of a script.
-/

set_option autoImplicit false

namespace ScriptAudit.Debt

/-- The weight of exceeding the graver or the milder one of two limits. -/
def weighPair (settings : Settings) (soft hard : Limit) (n : Int) (grave mild : Int) : Int :=
  if n > settings.limit hard then grave
  else if n > settings.limit soft then mild
  else 0

/-- The weight of exceeding a limit. -/
def weigh (settings : Settings) (limit : Limit) (n : Int) (weight : Int) : Int :=
  if n > settings.limit limit then weight else 0

/-- The debt of the number of lines of a script. -/
def ofFile (settings : Settings) (lineCount : Int) : Int :=
  weighPair settings .fileSoft .fileHard lineCount 50 20

/-- The debt of a function. -/
def ofFunction (settings : Settings) (metrics : Metrics) : Int :=
  weighPair settings .functionLong .functionCritical metrics.lineCount 20 10
    + weigh settings .parameters metrics.parameterCount 5
    + weigh settings .nesting metrics.nesting 5
    + weighPair settings .complexityWarning .complexityCritical metrics.complexity 25 10

/-- The debt of several functions together. -/
def ofFunctions (settings : Settings) (functions : List Metrics) : Int :=
  functions.foldr (fun metrics n => ofFunction settings metrics + n) 0

/-- The debt of a script. -/
def total (settings : Settings) (lineCount : Int) (functions : List Metrics) : Int :=
  ofFile settings lineCount + ofFunctions settings functions

end ScriptAudit.Debt
