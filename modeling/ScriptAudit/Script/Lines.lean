import ScriptAudit.Text.Blank

/-!
# Lines of a script

The scripts are written in GDScript.  They are never parsed: whatever is asked about a script is
answered from its lines, by plain tests that leave alone what they do not recognise.

A script is read as a list of physical lines, each a list of characters.  Only a line feed, alone or
behind a carriage return, ends a line; form feeds and the other separators of Unicode stay inside
the line.  Lines are numbered from one.  Line numbers are integers, so that a question about a line
may also fall before the first or behind the last one.

## Main definitions

* `ScriptAudit.Script.lines` — the physical lines of a text.
* `ScriptAudit.Script.Line` — a line with its number; `Line.text` is the line without the blank
  characters around it.
* `ScriptAudit.Script.numbered` — consecutive numbers given to a list of lines.
-/

set_option autoImplicit false

namespace ScriptAudit.Script

open Text

/-- The physical lines of a text.  A text that ends with a line feed has no empty line behind it,
and the empty text has no lines. -/
def lines : List Char → List (List Char)
  | [] => []
  | '\n' :: rest => [] :: lines rest
  | '\r' :: '\n' :: rest => [] :: lines rest
  | c :: rest =>
    match lines rest with
    | [] => [[c]]
    | line :: more => (c :: line) :: more

/-- A physical line and its number. -/
structure Line where
  /-- The position of the line in its script, counted from one. -/
  number : Int
  /-- The characters of the line as they stand. -/
  raw : List Char
  deriving DecidableEq

/-- The line without the blank characters around it. -/
def Line.text (line : Line) : List Char := trim line.raw

/-- Numbers the lines of a list consecutively, from `first` on. -/
def numbered (first : Int) : List (List Char) → List Line
  | [] => []
  | raw :: rest => ⟨first, raw⟩ :: numbered (first + 1) rest

/-- Without lines there is nothing to number. -/
@[simp]
theorem numbered_nil (first : Int) : numbered first [] = [] := rfl

/-- The first line gets the first number. -/
@[simp]
theorem numbered_cons (first : Int) (raw : List Char) (rest : List (List Char)) :
    numbered first (raw :: rest) = ⟨first, raw⟩ :: numbered (first + 1) rest := rfl

/-- Numbering keeps the number of lines. -/
@[simp]
theorem length_numbered (first : Int) (ls : List (List Char)) :
    (numbered first ls).length = ls.length := by
  induction ls generalizing first with
  | nil => rfl
  | cons raw rest ih => simp [ih]

/-- The lines of a second list are numbered on from those of a first one. -/
theorem numbered_append (first : Int) (as bs : List (List Char)) :
    numbered first (as ++ bs) = numbered first as ++ numbered (first + as.length) bs := by
  induction as generalizing first with
  | nil => simp
  | cons raw rest ih =>
    have : first + 1 + (rest.length : Int) = first + ((rest.length : Int) + 1) := by omega
    simp [ih, this]

end ScriptAudit.Script
