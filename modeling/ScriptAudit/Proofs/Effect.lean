import Mathlib.Tactic.Common
import ScriptAudit.Proofs.BlockMatching

/-!
# Every entry of an index has an effect

Whether an index holds no entries is asked to find out quickly that nothing is left out.  An index
could hold entries and still leave out nothing: a range that ends before it begins, or a row without
any list of checks.  The index of a script holds no such entries.

## Main definitions

* `ScriptAudit.Suppression.IsEffective` — no range is inverted and no row is empty.

## Main results

* `ScriptAudit.Suppression.isEmpty_of_forall_hides` — an index in which every entry has an effect
  leaves out something, unless it is empty.
* `ScriptAudit.Suppression.isEffective_ofLines` — in the index of a script every entry has an
  effect.
* `ScriptAudit.Suppression.isEmpty_ofLines_iff` — the index of a script is empty exactly if it
  leaves out nothing.
-/

set_option relaxedAutoImplicit false
set_option autoImplicit false

namespace ScriptAudit

/-! ## Rows -/

/-- Adding to a table leaves no row empty. -/
lemma LineTable.ne_nil_of_mem_add {table : LineTable} (h : ∀ row ∈ table, row.2 ≠ []) (line : Int)
    (ids : List String) : ∀ row ∈ table.add line ids, row.2 ≠ [] := by
  induction table with
  | nil => simp [add]
  | cons first rest ih =>
    obtain ⟨number, lists⟩ := first
    rw [List.forall_mem_cons] at h
    rw [add]
    split_ifs
    · exact List.forall_mem_cons.mpr
        ⟨List.append_ne_nil_of_right_ne_nil _ (List.cons_ne_nil _ _), h.2⟩
    · exact List.forall_mem_cons.mpr ⟨h.1, ih h.2⟩

namespace Suppression

open Script

/-- The table of a kind of directives has no empty row. -/
lemma ne_nil_of_mem_tableOf (kind : DirectiveKind) (ds : List Directive) :
    ∀ row ∈ tableOf kind ds, row.2 ≠ [] := by
  have hadd (rest : List Directive) : ∀ table : LineTable, (∀ row ∈ table, row.2 ≠ []) →
      ∀ row ∈ rest.foldl (fun table d => table.add d.line d.ids) table, row.2 ≠ [] := by
    induction rest with
    | nil => exact fun table h => h
    | cons d rest ih => exact fun table h => ih _ (LineTable.ne_nil_of_mem_add h d.line d.ids)
  exact hadd _ [] (by simp)

/-! ## Entries with an effect -/

/-- Every list of checks covers some check. -/
lemma exists_covers (ids : List String) : ∃ id, covers ids id = true := by
  cases ids with
  | nil => exact ⟨"", rfl⟩
  | cons id more => exact ⟨id, by simp [covers]⟩

/-- A table with rows, none of which is empty, covers some check on some line. -/
lemma exists_anyCovers_row {table : LineTable} (hne : table ≠ [])
    (hrows : ∀ row ∈ table, row.2 ≠ []) :
    ∃ line id, anyCovers (table.row line) id = true := by
  obtain ⟨⟨number, lists⟩, rest, rfl⟩ := List.exists_cons_of_ne_nil hne
  obtain ⟨ids, more, hlists⟩ := List.exists_cons_of_ne_nil (hrows _ List.mem_cons_self)
  obtain ⟨id, hid⟩ := exists_covers ids
  refine ⟨number, id, ?_⟩
  have hrow : LineTable.row ((number, lists) :: rest) number = ids :: more := by
    simpa [LineTable.row] using hlists
  simp [hrow, anyCovers, hid]

/-- **Every entry has an effect**: no range ends before it begins, and no row is empty. -/
structure IsEffective (index : Suppression) : Prop where
  first_le_last : ∀ range ∈ index.ranges, range.first ≤ range.last
  sameLine_ne_nil : ∀ row ∈ index.sameLine, row.2 ≠ []
  nextLine_ne_nil : ∀ row ∈ index.nextLine, row.2 ≠ []

/-- An index without entries leaves out nothing. -/
lemma hides_of_isEmpty {index : Suppression} (h : index.isEmpty = true) (line : Int) (id : String) :
    index.hides line id = false := by
  simp only [isEmpty, Bool.and_eq_true, List.isEmpty_iff] at h
  obtain ⟨⟨⟨⟨hfile, hbelow⟩, hranges⟩, hsame⟩, hnext⟩ := h
  rw [← Bool.not_eq_true, hides_iff, hfile, hbelow, hranges, hsame, hnext]
  simp [anyCovers, LineTable.row]

/-- **An index with entries leaves out something**, if every entry has an effect.

**Proof sketch.** Table by table: an entry that is effective hides some check on some line, and the
line depends on the table that it is in.  So no table has an entry. -/
lemma isEmpty_of_forall_hides {index : Suppression} (heffective : index.IsEffective)
    (h : ∀ line id, index.hides line id = false) : index.isEmpty = true := by
  simp only [← Bool.not_eq_true, hides_iff, not_or] at h
  have hfile : index.fileWide = [] := by
    refine List.eq_nil_iff_forall_not_mem.mpr fun ids hmem => ?_
    obtain ⟨id, hid⟩ := exists_covers ids
    exact (h 0 id).1 (List.any_eq_true.mpr ⟨ids, hmem, hid⟩)
  have hbelow : index.below = [] := by
    refine List.eq_nil_iff_forall_not_mem.mpr fun entry hmem => ?_
    obtain ⟨id, hid⟩ := exists_covers entry.ids
    exact (h entry.first id).2.1 ⟨entry, hmem, by simp [BelowEntry.hides, hid]⟩
  have hranges : index.ranges = [] := by
    refine List.eq_nil_iff_forall_not_mem.mpr fun range hmem => ?_
    obtain ⟨id, hid⟩ := exists_covers range.ids
    refine (h range.first id).2.2.1 ⟨range, hmem, (LineRange.hides_iff ..).mpr ⟨⟨?_, ?_⟩, hid⟩⟩
    · exact Int.le_refl _
    · exact heffective.first_le_last range hmem
  have hsame : index.sameLine = [] := by
    by_contra hne
    obtain ⟨line, id, hid⟩ := exists_anyCovers_row hne heffective.sameLine_ne_nil
    exact (h line id).2.2.2.1 hid
  have hnext : index.nextLine = [] := by
    by_contra hne
    obtain ⟨line, id, hid⟩ := exists_anyCovers_row hne heffective.nextLine_ne_nil
    refine (h (line + 1) id).2.2.2.2 ?_
    rwa [Int.add_sub_cancel]
  simp [isEmpty, hfile, hbelow, hranges, hsame, hnext]

/-! ## The index of a script -/

/-- No range of the index of a script ends before it begins.

**Proof sketch.** A function ends at its declaration or later.  A block is ended by a directive that
is read after the one that began it, and directives are read in the order of their lines. -/
lemma first_le_last_of_mem_ranges {script : List (List Char)} {range : LineRange}
    (h : range ∈ (ofLines script).ranges) : range.first ≤ range.last := by
  rw [ranges_ofLines, List.mem_mergeSort, pairing, mem_pairUp_iff] at h
  rcases h with
    ⟨d, -, -, hd⟩ | ⟨before, d, after, e, hread, -, ⟨between, rest, rfl, -⟩, rfl⟩ | hopen
  · exact first_le_last_of_functionRange? hd
  · have hlines := pairwise_line_directives 1 script
    rw [hread] at hlines
    refine List.rel_of_pairwise_cons (List.pairwise_append.mp hlines).2.1 ?_
    exact List.mem_append_right _ List.mem_cons_self
  · exact absurd hopen (not_isOpenBlock_nil _ _)

/-- **In the index of a script every entry has an effect.** -/
lemma isEffective_ofLines (script : List (List Char)) : (ofLines script).IsEffective where
  first_le_last _ h := first_le_last_of_mem_ranges h
  sameLine_ne_nil := ne_nil_of_mem_tableOf .line _
  nextLine_ne_nil := ne_nil_of_mem_tableOf .nextLine _

/-- **The index of a script is empty exactly if it leaves out nothing**, whatever the line and the
check. -/
theorem isEmpty_ofLines_iff (script : List (List Char)) :
    (ofLines script).isEmpty = true ↔ ∀ line id, (ofLines script).hides line id = false :=
  ⟨hides_of_isEmpty, isEmpty_of_forall_hides (isEffective_ofLines script)⟩

end Suppression

end ScriptAudit
