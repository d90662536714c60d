import ScriptAudit.Script.Code
import ScriptAudit.Script.Decision
import ScriptAudit.Script.Indent

/-!
# Measuring a function body

The depth of nesting and the cyclomatic complexity of the lines of a body.

Nesting is measured by indentation, relative to the first line that is not blank.  Complexity is one
more than the number of decision points.  If the arms of `match` blocks count too, every arm after
the first one of its block adds a point: an arm is a line indented like the first line inside the
block.

## Main definitions

* `ScriptAudit.Body.nesting` — the depth of nesting.
* `ScriptAudit.Body.CodeLine`, `ScriptAudit.Body.codeLines` — the lines of a body that hold code.
* `ScriptAudit.Body.complexity` — the cyclomatic complexity, in one pass over the lines.
* `ScriptAudit.Body.totalDecisions`, `ScriptAudit.Body.furtherArms` — what the points stand for: the
  decisions, and the arms of `match` blocks after the first one of each block.
-/

set_option autoImplicit false

namespace ScriptAudit.Body

open Text Script

/-! ## Nesting -/

/-- The levels of indentation of the lines that are not blank. -/
def levels (body : List (List Char)) : List Nat :=
  (body.filter (!isBlankText ·)).map indentLevel

/-- How far the deepest of some levels lies below `base`. -/
def depthBelow (base : Nat) : List Nat → Nat
  | [] => 0
  | level :: rest => Nat.max (level - base) (depthBelow base rest)

/-- The depth of nesting of a body, relative to its first line that is not blank. -/
def nesting (body : List (List Char)) : Nat :=
  match levels body with
  | [] => 0
  | base :: rest => depthBelow base rest

/-! ## Complexity -/

/-- A line that holds code. -/
structure CodeLine where
  /-- The width of its indentation. -/
  width : Nat
  /-- Its code part. -/
  code : List Char
  deriving DecidableEq

/-- The code on a line, if there is any. -/
def codeLine? (raw : List Char) : Option CodeLine :=
  let code := code (trim raw)
  if code.isEmpty then none else some ⟨indentWidth raw, code⟩

/-- A `match` block that is still open. -/
structure OpenMatch where
  /-- The indentation of its header. -/
  width : Nat
  /-- The indentation of its arms, once the first arm is known. -/
  armWidth : Option Nat
  deriving DecidableEq

/-- The open blocks after a line that is no arm: the line itself may open another one. -/
def openedBy (line : CodeLine) (blocks : List OpenMatch) : List OpenMatch :=
  if opensMatch line.code then ⟨line.width, none⟩ :: blocks else blocks

/-- What is known of a body up to a line. -/
structure Tally where
  /-- The points so far. -/
  points : Nat
  /-- The `match` blocks that are open, the innermost one coming first. -/
  blocks : List OpenMatch
  deriving DecidableEq

/-- The tally behind one more line of code, if the arms of `match` blocks count.  A line ends every
block whose header is indented at least as far as the line. -/
def Tally.addArms (tally : Tally) (line : CodeLine) : Tally :=
  match tally.blocks.dropWhile (fun block => line.width ≤ block.width) with
  | [] => ⟨tally.points + decisions line.code, openedBy line []⟩
  -- the first arm of a block adds no point of its own; no arm opens a block
  | ⟨width, none⟩ :: outer =>
    ⟨tally.points + decisions line.code, ⟨width, some line.width⟩ :: outer⟩
  | ⟨width, some armWidth⟩ :: outer =>
    if line.width = armWidth then
      ⟨tally.points + 1 + decisions line.code, ⟨width, some armWidth⟩ :: outer⟩
    else
      ⟨tally.points + decisions line.code, openedBy line (⟨width, some armWidth⟩ :: outer)⟩

/-- The tally behind one more line.  A line without code changes nothing. -/
def Tally.add (countArms : Bool) (tally : Tally) (raw : List Char) : Tally :=
  match codeLine? raw with
  | none => tally
  | some line =>
    if countArms then tally.addArms line
    else { tally with points := tally.points + decisions line.code }

/-- The cyclomatic complexity of a body. -/
def complexity (countArms : Bool) (body : List (List Char)) : Nat :=
  (body.foldl (Tally.add countArms) ⟨1, []⟩).points

/-! ## What the points stand for -/

/-- The lines of a body that hold code. -/
def codeLines (body : List (List Char)) : List CodeLine := body.filterMap codeLine?

/-- The decision points of all lines together. -/
def totalDecisions (lines : List CodeLine) : Nat :=
  lines.foldr (fun line n => decisions line.code + n) 0

/-- The number of arms after the first one of each `match` block, the innermost open block coming
first.  A line ends every block whose header is indented at least as far as the line. -/
def furtherArms : List OpenMatch → List CodeLine → Nat
  | _, [] => 0
  | blocks, line :: rest =>
    match blocks.dropWhile (fun block => line.width ≤ block.width) with
    | [] => furtherArms (openedBy line []) rest
    | ⟨width, none⟩ :: outer => furtherArms (⟨width, some line.width⟩ :: outer) rest
    | ⟨width, some armWidth⟩ :: outer =>
      if line.width = armWidth then 1 + furtherArms (⟨width, some armWidth⟩ :: outer) rest
      else furtherArms (openedBy line (⟨width, some armWidth⟩ :: outer)) rest

end ScriptAudit.Body
