import ScriptAudit.Text.Digit
import ScriptAudit.Text.Search
import ScriptAudit.Text.Word

/-!
# Number literals

A number literal is a run of decimal digits, perhaps with a point and further digits behind it, that
neither a word character nor a point touches from either side.  A minus sign before it belongs to
it, provided that nothing touches the sign in turn.

## Main definitions

* `ScriptAudit.Script.NumberLiteral` — a literal and the character before it.
* `ScriptAudit.Script.numberLiterals` — all literals of a line, left to right.
-/

set_option autoImplicit false

namespace ScriptAudit.Script

open Text

/-- A number literal in a line. -/
structure NumberLiteral where
  /-- The character that stands before the literal. -/
  before : Option Char
  /-- The literal with its sign. -/
  text : List Char
  deriving DecidableEq

/-- Whether a character would glue a number to what stands beside it. -/
def isNumberPart (c : Char) : Bool := isWordChar c || c == '.'

/-- Divides off a minus sign. -/
def takeSign : List Char → List Char × List Char
  | '-' :: rest => (['-'], rest)
  | text => ([], text)

/-- Divides off a point with at least one digit behind it. -/
def takeFraction : List Char → List Char × List Char
  | '.' :: rest =>
    let digits := rest.takeWhile isDigit
    if digits.isEmpty then ([], '.' :: rest) else ('.' :: digits, rest.dropWhile isDigit)
  | text => ([], text)

/-- Recognises a number literal. -/
def numberLiteral : Recogniser NumberLiteral := fun before text =>
  if before.any isNumberPart then none
  else
    let (sign, unsigned) := takeSign text
    let whole := unsigned.takeWhile isDigit
    let (fraction, rest) := takeFraction (unsigned.dropWhile isDigit)
    if whole.isEmpty || rest.head?.any isNumberPart then none
    else some (⟨before, sign ++ whole ++ fraction⟩, rest)

/-- All number literals of a line, left to right. -/
def numberLiterals (text : List Char) : List NumberLiteral := findAll numberLiteral text

end ScriptAudit.Script
