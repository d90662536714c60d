import ScriptAudit.Issue
import ScriptAudit.Number.Reading
import ScriptAudit.Script.Lines
import ScriptAudit.Script.Naming
import ScriptAudit.Script.NumberLiteral
import ScriptAudit.Script.Signature
import ScriptAudit.Settings.Basic

/-!
# Checks of single lines

Seven checks look at one line at a time.  Each yields at most one finding on a line, and they know
nothing of each other.

## Main definitions

* `ScriptAudit.LineCheck` — the checks of single lines, in the order in which they run.
* `ScriptAudit.LineCheck.judge` — the finding of a check on a line, if there is one.
-/

set_option autoImplicit false

namespace ScriptAudit

open Text Script

/-- The checks of single lines. -/
inductive LineCheck where
  /-- Lines with too many characters. -/
  | longLine
  /-- Markers for work to be done. -/
  | todoComment
  /-- Printing for debugging. -/
  | printStatement
  /-- Unexplained numbers. -/
  | magicNumber
  /-- Code that was commented out. -/
  | commentedCode
  /-- Variables without a type. -/
  | missingTypeHint
  /-- Names in the wrong style. -/
  | namingConvention
  deriving DecidableEq

namespace LineCheck

/-- All checks of single lines, in the order in which they run. -/
def all : List LineCheck :=
  [longLine, todoComment, printStatement, magicNumber, commentedCode, missingTypeHint,
   namingConvention]

/-- The check as one of all checks. -/
def check : LineCheck → Check
  | longLine => .longLine
  | todoComment => .todoComment
  | printStatement => .printStatement
  | magicNumber => .magicNumber
  | commentedCode => .commentedCode
  | missingTypeHint => .missingTypeHint
  | namingConvention => .namingConvention

/-! ## Length, markers and printing -/

/-- Finds a line that has more characters than allowed, blanks included. -/
def judgeLength (settings : Settings) (raw : List Char) : Option Finding :=
  let limit := settings.limit .lineLength
  let length := raw.length
  if (length : Int) ≤ limit then none
  else some ⟨.info, s!"Line is {length} characters long (max {limit})"⟩

/-- The finding for a marker, given the text behind it.  Only the plain marker is a mere remark. -/
def markerFinding (marker : String) (after : List Char) : Finding :=
  let remark := trim (after.dropWhile (· == ':'))
  ⟨if marker == "TODO" then .info else .warning,
    if remark.isEmpty then marker else marker ++ ": " ++ String.ofList remark⟩

/-- Finds the first marker, in the order of the settings, that stands anywhere in the line. -/
def judgeMarkers (settings : Settings) (text : List Char) : Option Finding :=
  (settings.patterns .todoMarkers).findSome? fun marker =>
    (afterFirst? marker.toList text).map (markerFinding marker)

/-- Whether the text holds one of the patterns of a list. -/
def holdsAny (patterns : List String) (text : List Char) : Bool :=
  patterns.any fun pattern => occursIn pattern.toList text

/-- The beginning of a line as reports quote it. -/
def excerpt (text : List Char) : String := String.ofList (text.take 60)

/-- Finds a line, not a comment, that prints and that no fragment of the whitelist excuses. -/
def judgePrinting (settings : Settings) (text : List Char) : Option Finding :=
  if isComment text || !holdsAny (settings.patterns .printCalls) text
      || holdsAny (settings.patterns .printWhitelist) text then none
  else some ⟨.warning, "Debug print statement: " ++ excerpt text⟩

/-! ## Numbers -/

/-- Whether numbers may stand freely in a line: in comments, constants, enumerations and exported
properties. -/
def mayHoldNumbers (text : List Char) : Bool :=
  isComment text || "const ".toList.isPrefixOf text || occursIn "enum ".toList text
    || occursIn ("enum".toList ++ ['{']) text || occursIn "@export".toList text

/-- Whether a number literal has a value that needs no name. -/
def isAllowedNumber (settings : Settings) (literal : List Char) : Bool :=
  match Number.double? literal with
  | some value => settings.allowedNumbers.any (· == value)
  | none => false

/-- Finds the first number literal, not right behind a quote, whose value would need a name. -/
def judgeNumbers (settings : Settings) (text : List Char) : Option Finding :=
  if mayHoldNumbers text then none
  else
    let unexplained := (numberLiterals text).find? fun literal =>
      !literal.before.any isQuote && !isAllowedNumber settings literal.text
    unexplained.map fun literal =>
      ⟨.info, "Magic number " ++ String.ofList literal.text ++ " (consider a named constant)"⟩

/-! ## Disabled code and missing types -/

/-- Whether a line begins with the pattern, or holds it behind a space or a tab. -/
def holdsDisabled (pattern text : List Char) : Bool :=
  pattern.isPrefixOf text || occursIn (' ' :: pattern) text || occursIn ('\t' :: pattern) text

/-- Finds a line that holds code which was commented out. -/
def judgeDisabled (settings : Settings) (text : List Char) : Option Finding :=
  if (settings.patterns .commentedCode).any (fun pattern => holdsDisabled pattern.toList text) then
    some ⟨.info, "Commented-out code: " ++ excerpt text⟩
  else none

/-- Finds a variable declaration whose name is not followed by a colon. -/
def judgeType (text : List Char) : Option Finding :=
  match variableDeclaration? text with
  | none => none
  | some (name, rest) =>
    if rest.head? == some ':' then none
    else some ⟨.info, "Variable '" ++ String.ofList name ++ "' has no type hint"⟩

/-! ## Names -/

/-- The word for a kind of declaration in reports. -/
def kindWord : NamedKind → String
  | .signal => "Signal"
  | .constant => "Constant"
  | .className => "Class name"
  | .enumeration => "Enum"

/-- The style in which the names of a kind of declaration are written. -/
def kindStyle : NamedKind → NameStyle
  | .signal => .snake
  | .constant => .upperSnake
  | .className => .pascal
  | .enumeration => .pascal

/-- The finding for a name that does not follow the style for its kind. -/
def styleFinding (word : String) (name : List Char) (style : NameStyle) : Finding :=
  ⟨.info, word ++ " '" ++ String.ofList name ++ "' should be " ++ style.label⟩

/-- Whether a name is in order for its kind of declaration.  A constant that holds a loaded resource
may also be named like a class. -/
def isWellNamed (kind : NamedKind) (name text : List Char) : Bool :=
  (kindStyle kind).accepts name
    || (kind == .constant && !(loadedPaths text).isEmpty && NameStyle.pascal.accepts name)

/-- Finds a declared name that does not follow the style for its kind. -/
def judgeName (text : List Char) : Option Finding :=
  if isFunctionDeclaration text then
    let name := Signature.name text
    if name.isEmpty || NameStyle.snake.accepts name then none
    else some (styleFinding "Function" name .snake)
  else
    match declaration? text with
    | none => none
    | some (kind, name) =>
      if isWellNamed kind name text then none
      else some (styleFinding (kindWord kind) name (kindStyle kind))

/-! ## All checks of a line -/

/-- The finding of a check on a line, if there is one. -/
def judge (settings : Settings) (line : Line) : LineCheck → Option Finding
  | longLine => judgeLength settings line.raw
  | todoComment => judgeMarkers settings line.text
  | printStatement => judgePrinting settings line.text
  | magicNumber => judgeNumbers settings line.text
  | commentedCode => judgeDisabled settings line.text
  | missingTypeHint => judgeType line.text
  | namingConvention => judgeName line.text

end LineCheck

end ScriptAudit
