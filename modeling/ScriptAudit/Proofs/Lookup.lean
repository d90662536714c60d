import Mathlib.Data.List.Forall2
import Mathlib.Data.List.Perm.Basic
import Mathlib.Tactic.Common
import ScriptAudit.Suppression.Build

/-!
# Looking up an index

An index finds the ranges that may contain a line by binary search in the sorted list of their first
lines, and the directives about single lines in tables.  Both are made for speed only: an index
answers as a plain scan of the entries it was given would.

## Main definitions

* `ScriptAudit.Suppression.Entries` — what an index is made from; `Entries.Hide` is the plain scan.
* `ScriptAudit.Suppression.Entries.Rearrange` — the same entries in another order.

## Main results

* `ScriptAudit.lt_upperBound_iff` — in an increasing list, the entries before the position found by
  binary search are those that are at most the number looked for.
* `ScriptAudit.Suppression.row_tableOf` — a table holds, line by line, the directives of its kind.
* `ScriptAudit.Suppression.hides_of_iff` — what an index hides, read off its entries in the order in
  which they were given.
* `ScriptAudit.Suppression.hides_index_iff_hide` — the index of some entries answers as the plain
  scan, and the order of the entries makes no difference.
-/

set_option relaxedAutoImplicit false
set_option autoImplicit false

namespace ScriptAudit

/-! ## Binary search -/

/-- The entries of an increasing array do not get smaller. -/
lemma getElem_le_getElem {xs : Array Int} (hs : xs.toList.Pairwise (· ≤ ·)) {i j : Nat}
    (hij : i ≤ j) (hj : j < xs.size) : xs[i] ≤ xs[j] := by
  rcases Nat.lt_or_eq_of_le hij with h | rfl
  · have hi : i < xs.toList.length := by rw [Array.length_toList]; omega
    have hle := List.pairwise_iff_getElem.mp hs i j hi (by rwa [Array.length_toList]) h
    rwa [Array.getElem_toList, Array.getElem_toList] at hle
  · exact Int.le_refl _

/-- **The loop of the binary search.**  If everything before `lo` is at most `x` and everything from
`hi` on is greater, the position found separates the entries that are at most `x` from the others.

**Proof sketch.** Induction along the loop.  An entry in the middle that is greater than `x` is
followed by greater ones only, so the upper part is settled; one that is not is preceded by entries
that are at most `x`, and the lower part is settled. -/
lemma lt_upperBoundIn_iff {xs : Array Int} (hs : xs.toList.Pairwise (· ≤ ·)) (x : Int) (lo hi : Nat)
    (bound : hi ≤ xs.size) (hle : lo ≤ hi)
    (hlow : ∀ j (hj : j < xs.size), j < lo → xs[j] ≤ x)
    (hhigh : ∀ j (hj : j < xs.size), hi ≤ j → x < xs[j]) :
    ∀ j (hj : j < xs.size), j < upperBoundIn xs x lo hi bound ↔ xs[j] ≤ x := by
  fun_induction upperBoundIn xs x lo hi bound with
  | case1 lo hi bound hlt middle hgt ih =>
    refine ih (by omega) hlow (fun j hj hmj => ?_)
    exact Int.lt_of_lt_of_le hgt (getElem_le_getElem hs hmj hj)
  | case2 lo hi bound hlt middle hngt ih =>
    refine ih (by omega) (fun j hj hjm => ?_) hhigh
    have hmid : middle < xs.size := by omega
    exact Int.le_trans (getElem_le_getElem hs (by omega) hmid) (Int.not_lt.mp hngt)
  | case3 lo hi bound hnlt =>
    refine fun j hj => ⟨hlow j hj, fun hjx => ?_⟩
    by_contra hlj
    exact absurd hjx (Int.not_le.mpr (hhigh j hj (by omega)))

/-- **Binary search.**  In an increasing list, an entry stands before the position found if and only
if it is at most the number looked for. -/
theorem lt_upperBound_iff {xs : List Int} (hs : xs.Pairwise (· ≤ ·)) (x : Int) {j : Nat}
    (hj : j < xs.length) : j < upperBound xs.toArray x ↔ xs[j] ≤ x := by
  apply @lt_upperBoundIn_iff xs.toArray hs x 0 xs.length (Nat.le_refl _) (Nat.zero_le _) _ _ j hj
  · exact fun _ _ h => absurd h (Nat.not_lt_zero _)
  · exact fun _ hj h => absurd hj (Nat.not_lt.mpr h)

/-! ## Ranges -/

/-- A range hides the checks that it is about on its lines. -/
lemma LineRange.hides_iff (range : LineRange) (line : Int) (id : String) :
    range.hides line id = true ↔
      (range.first ≤ line ∧ line ≤ range.last) ∧ covers range.ids id = true := by
  rw [LineRange.hides, Bool.and_eq_true, decide_eq_true_eq]

namespace Suppression

/-- Trying only the ranges that begin at or before a line is as good as trying all.

**Proof sketch.** A range that hides something on the line begins at or before it, so its position
lies before the one that the binary search finds. -/
lemma hidesInRange_iff (index : Suppression) (line : Int) (id : String) :
    index.hidesInRange line id = true ↔ ∃ range ∈ index.ranges, range.hides line id = true := by
  have hs : (index.ranges.map (·.first)).Pairwise (· ≤ ·) := List.pairwise_map.mpr index.ordered
  unfold hidesInRange
  rw [List.any_eq_true]
  constructor
  · rintro ⟨range, hmem, hhides⟩
    exact ⟨range, List.mem_of_mem_take hmem, hhides⟩
  · rintro ⟨range, hmem, hhides⟩
    refine ⟨range, ?_, hhides⟩
    obtain ⟨j, hj, rfl⟩ := List.mem_iff_getElem.mp hmem
    have hfirst : index.ranges[j].first ≤ line := ((LineRange.hides_iff ..).mp hhides).1.1
    have hlt : j < upperBound (index.ranges.map (·.first)).toArray line := by
      rw [lt_upperBound_iff hs line (by rwa [List.length_map]), List.getElem_map]
      exact hfirst
    exact List.mem_take_iff_getElem.mpr ⟨j, by omega, rfl⟩

/-! ## Tables -/

/-- Adding directives one after the other appends their lists of checks to the rows of their
lines. -/
lemma row_foldl_add (ds : List Directive) (table : LineTable) (line : Int) :
    (ds.foldl (fun table d => table.add d.line d.ids) table).row line =
      table.row line ++ (ds.filter (·.line = line)).map (·.ids) := by
  induction ds generalizing table with
  | nil => simp
  | cons d rest ih =>
    rw [List.foldl_cons, ih, LineTable.row_add]
    by_cases h : d.line = line
    · simp [h]
    · simp [h, Ne.symm h]

/-- The row of a line holds the lists of checks of the directives of that kind on that line. -/
lemma row_tableOf (kind : DirectiveKind) (ds : List Directive) (line : Int) :
    (tableOf kind ds).row line =
      (ds.filter fun d => d.line = line && d.kind == kind).map (·.ids) := by
  unfold tableOf
  rw [row_foldl_add, List.filter_filter]
  simp [LineTable.row]

/-! ## All entries -/

/-- One of several lists covers a check if and only if one of the directives that they come from
does. -/
lemma anyCovers_map_filter (p : Directive → Bool) (ds : List Directive) (id : String) :
    anyCovers ((ds.filter p).map (·.ids)) id = true ↔
      ∃ d ∈ ds, p d = true ∧ d.covers id = true := by
  simp only [anyCovers, List.any_map, List.any_filter, List.any_eq_true, Function.comp_apply,
    Bool.and_eq_true, Directive.covers]

/-- **What an index hides**, in terms of its parts. -/
lemma hides_iff (index : Suppression) (line : Int) (id : String) :
    index.hides line id = true ↔
      anyCovers index.fileWide id = true ∨ (∃ entry ∈ index.below, entry.hides line id = true) ∨
        (∃ range ∈ index.ranges, range.hides line id = true) ∨
        anyCovers (index.sameLine.row line) id = true ∨
        anyCovers (index.nextLine.row (line - 1)) id = true := by
  unfold hides
  simp only [Bool.or_eq_true, hidesInRange_iff, List.any_eq_true, or_assoc]

/-- **What an index hides.**  The answer of an index is that of a plain scan of the entries that it
was given, the ranges in any order. -/
theorem hides_of_iff (fileWide : List (List String)) (below : List BelowEntry)
    (ranges : List LineRange) (sameLine nextLine : LineTable) (unmatched : List Int) (line : Int)
    (id : String) :
    (of fileWide below ranges sameLine nextLine unmatched).hides line id = true ↔
      anyCovers fileWide id = true ∨ (∃ entry ∈ below, entry.hides line id = true) ∨
        (∃ range ∈ ranges, range.hides line id = true) ∨
        anyCovers (sameLine.row line) id = true ∨
          anyCovers (nextLine.row (line - 1)) id = true := by
  rw [hides_iff]
  simp only [of, List.mem_mergeSort]

end Suppression

/-! ## The order of entries -/

namespace LineTable

/-- A table has at most one row for each line. -/
def IsKeyed (table : LineTable) : Prop := (table.map (·.1)).Nodup

instance : DecidablePred IsKeyed := fun table => inferInstanceAs (Decidable (table.map (·.1)).Nodup)

/-- The rows of two tables are the same up to their order, and so are the lists in each row. -/
def Rearranges (table other : LineTable) : Prop :=
  ∃ rows : LineTable, table.Perm rows ∧
    List.Forall₂ (fun a b => a.1 = b.1 ∧ a.2.Perm b.2) rows other

section Rows

variable {table : LineTable} (line : Int) (p : List String → Prop)

/-- Looking for the row of a line is as good as trying all rows.

**Proof sketch.** Induction on the rows.  If the first one is about the line, no other one is, since
the numbers are distinct. -/
lemma exists_mem_row_iff (h : table.IsKeyed) :
    (∃ ids ∈ table.row line, p ids) ↔ ∃ row ∈ table, row.1 = line ∧ ∃ ids ∈ row.2, p ids := by
  induction table with
  | nil => simp [row]
  | cons first rest ih =>
    obtain ⟨number, lists⟩ := first
    obtain ⟨hnew, hrest⟩ := List.nodup_cons.mp h
    rw [row, List.exists_mem_cons_iff]
    split_ifs with hline
    · have hnone : ¬ ∃ row ∈ rest, row.1 = line ∧ ∃ ids ∈ row.2, p ids := by
        rintro ⟨other, hother, hsame, -⟩
        exact hnew (List.mem_map.mpr ⟨other, hother, hsame.trans hline.symm⟩)
      simp only [hline, true_and, hnone, or_false]
    · simp only [hline, false_and, false_or, ih hrest]

/-- What the rows for a line hold does not depend on any order. -/
lemma Rearranges.exists_mem_iff {other : LineTable} (h : table.Rearranges other) :
    (∃ row ∈ table, row.1 = line ∧ ∃ ids ∈ row.2, p ids) ↔
      ∃ row ∈ other, row.1 = line ∧ ∃ ids ∈ row.2, p ids := by
  obtain ⟨rows, hperm, hrows⟩ := h
  simp only [hperm.mem_iff]
  clear hperm
  induction hrows with
  | nil => rfl
  | cons hfirst _ ih => simp only [List.exists_mem_cons_iff, hfirst.1, hfirst.2.mem_iff, ih]

end Rows

end LineTable

namespace Suppression

/-- **The entries that an index is made from**, in any order.  Ranges may overlap, occur more than
once or end before they begin, and lines may be any integers. -/
structure Entries where
  /-- Lists of checks left out in the whole file. -/
  fileWide : List (List String)
  /-- Checks left out from a line on. -/
  below : List BelowEntry
  /-- Checks left out in ranges of lines. -/
  ranges : List LineRange
  /-- Checks left out on a line. -/
  sameLine : LineTable
  /-- Checks left out on the line behind a line. -/
  nextLine : LineTable
  sameLine_keyed : sameLine.IsKeyed
  nextLine_keyed : nextLine.IsKeyed

namespace Entries

/-- The index of some entries, with the lines of directives that have no effect. -/
def index (entries : Entries) (unmatched : List Int) : Suppression :=
  of entries.fileWide entries.below entries.ranges entries.sameLine entries.nextLine unmatched

/-- **The plain scan**: one of the entries is about the check and reaches the line. -/
def Hide (entries : Entries) (line : Int) (id : String) : Prop :=
  (∃ ids ∈ entries.fileWide, covers ids id = true) ∨
  (∃ entry ∈ entries.below, entry.first ≤ line ∧ covers entry.ids id = true) ∨
  (∃ range ∈ entries.ranges, (range.first ≤ line ∧ line ≤ range.last) ∧
    covers range.ids id = true) ∨
  (∃ row ∈ entries.sameLine, row.1 = line ∧ ∃ ids ∈ row.2, covers ids id = true) ∨
  (∃ row ∈ entries.nextLine, row.1 = line - 1 ∧ ∃ ids ∈ row.2, covers ids id = true)

instance (entries : Entries) (line : Int) (id : String) : Decidable (entries.Hide line id) :=
  inferInstanceAs (Decidable (_ ∨ _ ∨ _ ∨ _ ∨ _))

/-- The same entries in another order. -/
structure Rearrange (entries other : Entries) : Prop where
  fileWide : entries.fileWide.Perm other.fileWide
  below : entries.below.Perm other.below
  ranges : entries.ranges.Perm other.ranges
  sameLine : entries.sameLine.Rearranges other.sameLine
  nextLine : entries.nextLine.Rearranges other.nextLine

end Entries

/-- **The index of some entries** hides what one of the entries asks for. -/
lemma hides_index_iff (entries : Entries) (unmatched : List Int) (line : Int) (id : String) :
    (entries.index unmatched).hides line id = true ↔ entries.Hide line id := by
  rw [Entries.index, hides_of_iff]
  simp only [anyCovers, List.any_eq_true, BelowEntry.hides, LineRange.hides, Bool.and_eq_true,
    decide_eq_true_eq, LineTable.exists_mem_row_iff _ _ entries.sameLine_keyed,
    LineTable.exists_mem_row_iff _ _ entries.nextLine_keyed, Entries.Hide]

/-- The plain scan does not depend on the order of the entries. -/
lemma Entries.Rearrange.hide_iff {entries other : Entries}
    (h : entries.Rearrange other) (line : Int)
    (id : String) : entries.Hide line id ↔ other.Hide line id := by
  simp only [Entries.Hide, h.fileWide.mem_iff, h.below.mem_iff, h.ranges.mem_iff,
    h.sameLine.exists_mem_iff, h.nextLine.exists_mem_iff]

/-- **An index answers as a plain scan of its entries.**  Whatever entries an index is made from, it
leaves out a check on a line if and only if one of them is about the check and reaches the line.  So
the order in which the entries are given makes no difference to any answer. -/
theorem hides_index_iff_hide (entries : Entries) (unmatched : List Int) :
    (∀ line id, (entries.index unmatched).hides line id = true ↔ entries.Hide line id) ∧
      ∀ (other : Entries) (unmatched' : List Int), entries.Rearrange other →
        ∀ line id, (other.index unmatched').hides line id =
          (entries.index unmatched).hides line id := by
  refine ⟨hides_index_iff entries unmatched, fun other unmatched' h line id => ?_⟩
  rw [Bool.eq_iff_iff, hides_index_iff, hides_index_iff]
  exact (h.hide_iff line id).symm

/-- Overlapping and equal ranges, one that ends before it begins, and lines before the first one. -/
def oddEntries : Entries where
  fileWide := [["x"]]
  below := [⟨9, []⟩, ⟨-2, ["y"]⟩]
  ranges := [⟨3, 1, []⟩, ⟨2, 4, ["a"]⟩, ⟨2, 3, ["b"]⟩, ⟨2, 4, ["a"]⟩, ⟨-1, 0, []⟩]
  sameLine := [(7, [["a"], ["c"]]), (2, [["d"]])]
  nextLine := [(0, [["e"]])]
  sameLine_keyed := by decide
  nextLine_keyed := by decide

/-- The same entries in increasing order of their lines. -/
def sortedEntries : Entries where
  fileWide := [["x"]]
  below := [⟨-2, ["y"]⟩, ⟨9, []⟩]
  ranges := [⟨-1, 0, []⟩, ⟨2, 3, ["b"]⟩, ⟨2, 4, ["a"]⟩, ⟨2, 4, ["a"]⟩, ⟨3, 1, []⟩]
  sameLine := [(2, [["d"]]), (7, [["c"], ["a"]])]
  nextLine := [(0, [["e"]])]
  sameLine_keyed := by decide
  nextLine_keyed := by decide

/-- On its first line a range begins to hide; a range that ends before it begins hides nothing. -/
theorem hides_index_iff_hide_oddEntries :
    oddEntries.Rearrange sortedEntries ∧ (oddEntries.index []).hides 2 "b" = true ∧
      (sortedEntries.index []).hides 2 "b" = true ∧ ¬ oddEntries.Hide 3 "c" ∧
      (sortedEntries.index []).hides 3 "c" = false := by
  have hsorted : oddEntries.Rearrange sortedEntries :=
    { fileWide := .refl _
      below := by decide
      ranges := by decide
      sameLine := ⟨[(2, [["d"]]), (7, [["a"], ["c"]])], by decide,
        .cons ⟨rfl, .refl _⟩ (.cons ⟨rfl, by decide⟩ .nil)⟩
      nextLine := ⟨[(0, [["e"]])], .refl _, .cons ⟨rfl, .refl _⟩ .nil⟩ }
  obtain ⟨hscan, horder⟩ := hides_index_iff_hide oddEntries []
  have hb : (oddEntries.index []).hides 2 "b" = true := (hscan 2 "b").mpr (by decide)
  have hc : ¬ oddEntries.Hide 3 "c" := by decide
  refine ⟨hsorted, hb, ?_, hc, ?_⟩
  · rw [horder sortedEntries [] hsorted, hb]
  · rw [horder sortedEntries [] hsorted, ← Bool.not_eq_true, hscan]
    exact hc

end Suppression

end ScriptAudit
