import ScriptAudit.Script.Declaration
import ScriptAudit.Script.Lines

/-!
# Function segments

A script is divided at its function declarations: the lines before the first one, and then, for each
declaration, the declaring line together with all lines up to the next declaration or the end.

## Main definitions

* `ScriptAudit.Segment` — the lines of one function.
* `ScriptAudit.Segment.divide` — the lines before the first declaration, and the segments.
* `ScriptAudit.Segment.ofLines` — the segments of a script.
-/

set_option autoImplicit false

namespace ScriptAudit

open Text Script

/-- The lines of one function. -/
structure Segment where
  /-- The number of the declaring line. -/
  startLine : Int
  /-- The declaring line. -/
  signature : List Char
  /-- The lines behind it. -/
  body : List (List Char)
  deriving DecidableEq

namespace Segment

/-- The number of lines of a function, the declaring one included. -/
def lineCount (segment : Segment) : Nat := segment.body.length + 1

/-- Whether a line declares a function. -/
def isStart (raw : List Char) : Bool := isFunctionDeclaration (trim raw)

/-- Divides lines, numbered from `first` on, at the function declarations: the lines before the
first declaration, and the segments. -/
def divide (first : Int) : List (List Char) → List (List Char) × List Segment
  | [] => ([], [])
  | raw :: rest =>
    let (before, segments) := divide (first + 1) rest
    if isStart raw then ([], ⟨first, raw, before⟩ :: segments) else (raw :: before, segments)

/-- The segments of a script. -/
def ofLines (lines : List (List Char)) : List Segment := (divide 1 lines).2

/-- The lines of a script before its first function declaration. -/
def preamble (lines : List (List Char)) : List (List Char) := (divide 1 lines).1

end Segment

end ScriptAudit
