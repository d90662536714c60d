import ScriptAudit.Suppression.Directive
import ScriptAudit.Suppression.UpperBound

/-!
# Suppression indices

The index of a script answers which issues are left out of its report.  It holds, sorted by how they
are looked up, what the directives of the script ask for.

## Main definitions

* `ScriptAudit.LineRange`, `ScriptAudit.BelowEntry`, `ScriptAudit.LineTable` — the parts of an
  index.
* `ScriptAudit.Suppression` — an index; its ranges are in increasing order of their first lines.
* `ScriptAudit.Suppression.of` — the index of given entries, which may come in any order.
* `ScriptAudit.Suppression.hides` — whether an index leaves out a check on a line.

## Implementation notes

Ranges are sorted by first and last line and keep their order otherwise.  A look-up finds the ranges
that begin at or before the line by binary search, and only tries those.
-/

set_option autoImplicit false

namespace ScriptAudit

/-- A closed range of lines on which some checks are left out. -/
structure LineRange where
  /-- The first line. -/
  first : Int
  /-- The last line. -/
  last : Int
  /-- The checks; none for all checks. -/
  ids : List String
  deriving DecidableEq

/-- Whether a range leaves out a check on a line. -/
def LineRange.hides (range : LineRange) (line : Int) (id : String) : Bool :=
  decide (range.first ≤ line ∧ line ≤ range.last) && covers range.ids id

/-- The order of ranges by first line, then by last line. -/
def LineRange.le (a b : LineRange) : Bool :=
  decide (a.first < b.first ∨ a.first = b.first ∧ a.last ≤ b.last)

/-- From a line on, some checks are left out. -/
structure BelowEntry where
  /-- The first line. -/
  first : Int
  /-- The checks; none for all checks. -/
  ids : List String
  deriving DecidableEq

/-- Whether an entry leaves out a check on a line. -/
def BelowEntry.hides (entry : BelowEntry) (line : Int) (id : String) : Bool :=
  decide (entry.first ≤ line) && covers entry.ids id

/-- Lists of checks, kept by line. -/
abbrev LineTable := List (Int × List (List String))

namespace LineTable

/-- Adds a list of checks to the row of a line, behind what the row already holds. -/
def add (table : LineTable) (line : Int) (ids : List String) : LineTable :=
  match table with
  | [] => [(line, [ids])]
  | (number, row) :: rest =>
    if number = line then (number, row ++ [ids]) :: rest else (number, row) :: add rest line ids

/-- The row of a line, empty if there is none. -/
def row (table : LineTable) (line : Int) : List (List String) :=
  match table with
  | [] => []
  | (number, row) :: rest => if number = line then row else LineTable.row rest line

/-- Adding to the row of a line changes that row only. -/
theorem row_add (table : LineTable) (line n : Int) (ids : List String) :
    (table.add line ids).row n = if n = line then table.row line ++ [ids] else table.row n := by
  induction table with
  | nil => simp [add, row, eq_comm]
  | cons entry rest ih =>
    obtain ⟨number, r⟩ := entry
    by_cases hline : number = line
    · subst hline
      by_cases h : number = n
      · simp [add, row, h]
      · simp [add, row, h, Ne.symm h]
    · by_cases h : number = n
      · subst h
        simp [add, row, hline]
      · simp [add, row, hline, h, ih]

end LineTable

/-- What the directives of a script ask for. -/
structure Suppression where
  /-- Lists of checks left out in the whole file. -/
  fileWide : List (List String)
  /-- Checks left out from a line on. -/
  below : List BelowEntry
  /-- Checks left out in ranges of lines. -/
  ranges : List LineRange
  /-- Checks left out on a line. -/
  sameLine : LineTable
  /-- Checks left out on the line behind a line. -/
  nextLine : LineTable
  /-- The lines of directives that have no effect, in increasing order. -/
  unmatched : List Int
  /-- Ranges stand in increasing order of their first lines. -/
  ordered : ranges.Pairwise fun a b => a.first ≤ b.first

namespace Suppression

/-- Sorting by first and last line puts the first lines in increasing order. -/
theorem pairwise_first_mergeSort (ranges : List LineRange) :
    (ranges.mergeSort LineRange.le).Pairwise fun a b => a.first ≤ b.first := by
  refine List.Pairwise.imp (R := fun a b => LineRange.le a b = true) ?_ ?_
  · intro a b h
    simp only [LineRange.le, decide_eq_true_eq] at h
    omega
  · apply List.pairwise_mergeSort
    · intro a b c hab hbc
      simp only [LineRange.le, decide_eq_true_eq] at hab hbc ⊢
      omega
    · intro a b
      simp only [LineRange.le, Bool.or_eq_true, decide_eq_true_eq]
      omega

/-- The index of given entries. -/
def of (fileWide : List (List String)) (below : List BelowEntry) (ranges : List LineRange)
    (sameLine nextLine : LineTable) (unmatched : List Int) : Suppression where
  fileWide := fileWide
  below := below
  ranges := ranges.mergeSort LineRange.le
  sameLine := sameLine
  nextLine := nextLine
  unmatched := unmatched
  ordered := pairwise_first_mergeSort ranges

/-- Whether one of several lists of checks covers a check. -/
def anyCovers (lists : List (List String)) (id : String) : Bool := lists.any (covers · id)

/-- Whether a range leaves out a check on a line.  Only ranges that begin at or before the line can
do so. -/
def hidesInRange (index : Suppression) (line : Int) (id : String) : Bool :=
  let begun := upperBound (index.ranges.map (·.first)).toArray line
  (index.ranges.take begun).any (·.hides line id)

/-- Whether the index leaves out a check on a line. -/
def hides (index : Suppression) (line : Int) (id : String) : Bool :=
  anyCovers index.fileWide id || index.below.any (·.hides line id) || index.hidesInRange line id
    || anyCovers (index.sameLine.row line) id || anyCovers (index.nextLine.row (line - 1)) id

/-- Whether an index holds no entries. -/
def isEmpty (index : Suppression) : Bool :=
  index.fileWide.isEmpty && index.below.isEmpty && index.ranges.isEmpty && index.sameLine.isEmpty
    && index.nextLine.isEmpty

end Suppression

end ScriptAudit
