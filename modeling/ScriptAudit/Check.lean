/-!
# Checks

Every issue belongs to one of fifteen checks.  A check is known by its identifier, which directives
and settings refer to.

## Main definitions

* `ScriptAudit.Check` — the checks; `Check.all` lists them in order.
* `ScriptAudit.Check.id` — the identifier of a check.
-/

set_option autoImplicit false

namespace ScriptAudit

/-- The checks. -/
inductive Check where
  /-- The script has too many lines. -/
  | fileLength
  /-- A function has too many lines. -/
  | longFunction
  /-- A function has too many decision points. -/
  | highComplexity
  /-- A function has too many parameters. -/
  | tooManyParams
  /-- A function is nested too deeply. -/
  | deepNesting
  /-- A function does nothing. -/
  | emptyFunction
  /-- A public function states no return type. -/
  | missingReturnType
  /-- The script has too many public functions or signals. -/
  | godClass
  /-- A line has too many characters. -/
  | longLine
  /-- A line holds a marker for work to be done. -/
  | todoComment
  /-- A line prints for debugging. -/
  | printStatement
  /-- A line holds an unexplained number. -/
  | magicNumber
  /-- A line holds code that was commented out. -/
  | commentedCode
  /-- A variable has no type. -/
  | missingTypeHint
  /-- A name does not follow the convention for its kind. -/
  | namingConvention
  deriving DecidableEq

namespace Check

/-- All checks, in the order of reports and settings. -/
def all : List Check :=
  [fileLength, longFunction, highComplexity, tooManyParams, deepNesting, emptyFunction,
   missingReturnType, godClass, longLine, todoComment, printStatement, magicNumber, commentedCode,
   missingTypeHint, namingConvention]

/-- The identifier of a check, to which directives refer. -/
def id : Check → String
  | fileLength => "file-length"
  | longFunction => "long-function"
  | highComplexity => "high-complexity"
  | tooManyParams => "too-many-params"
  | deepNesting => "deep-nesting"
  | emptyFunction => "empty-function"
  | missingReturnType => "missing-return-type"
  | godClass => "god-class"
  | longLine => "long-line"
  | todoComment => "todo-comment"
  | printStatement => "print-statement"
  | magicNumber => "magic-number"
  | commentedCode => "commented-code"
  | missingTypeHint => "missing-type-hint"
  | namingConvention => "naming-convention"

/-- The check with the given identifier. -/
def ofId? (id : String) : Option Check := all.find? (·.id == id)

end Check

end ScriptAudit
