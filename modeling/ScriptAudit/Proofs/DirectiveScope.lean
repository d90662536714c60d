import Mathlib.Tactic.Common
import ScriptAudit.Proofs.Blocks
import ScriptAudit.Proofs.FunctionRanges

/-!
# What directives mean

A directive reaches certain lines of its script, according to its kind, and is about certain
checks.  The index of a script is built to answer quickly whether an issue is to be left out; its
answer is yes exactly if some directive of the script is about the check and reaches the line.

## Main definitions

* `ScriptAudit.Suppression.Reaches` — the lines that a directive reaches.

## Main results

* `ScriptAudit.Suppression.hides_ofLines_iff_exists` — what the index of a script hides, in terms of
  its directives and ranges.
* `ScriptAudit.Suppression.hides_ofLines_iff` — the index of a script hides what its directives
  reach.
-/

set_option relaxedAutoImplicit false
set_option autoImplicit false

namespace ScriptAudit.Suppression

open Script

/-! ## The parts of an index -/

/-- The directives that count from their line on are kept with their lines. -/
lemma exists_below_iff (ds : List Directive) (n : Int) (id : String) :
    (∃ entry ∈ (ds.filter (·.kind == .below)).map fun d => (⟨d.line, d.ids⟩ : BelowEntry),
        entry.hides n id = true) ↔
      ∃ d ∈ ds, d.kind = .below ∧ d.line ≤ n ∧ d.covers id = true := by
  simp only [List.mem_map, List.mem_filter, beq_iff_eq]
  constructor
  · rintro ⟨entry, ⟨d, ⟨hmem, hkind⟩, rfl⟩, hhides⟩
    rw [BelowEntry.hides, Bool.and_eq_true, decide_eq_true_eq] at hhides
    exact ⟨d, hmem, hkind, hhides⟩
  · rintro ⟨d, hmem, hkind, hline, hcovers⟩
    refine ⟨_, ⟨d, ⟨hmem, hkind⟩, rfl⟩, ?_⟩
    rw [BelowEntry.hides, Bool.and_eq_true, decide_eq_true_eq]
    exact ⟨hline, hcovers⟩

/-- A row of the table of a kind covers what a directive of that kind on the line does. -/
lemma anyCovers_row_tableOf_iff (kind : DirectiveKind) (ds : List Directive) (line : Int)
    (id : String) :
    anyCovers ((tableOf kind ds).row line) id = true ↔
      ∃ d ∈ ds, d.kind = kind ∧ d.line = line ∧ d.covers id = true := by
  rw [row_tableOf, anyCovers_map_filter]
  simp only [Bool.and_eq_true, decide_eq_true_eq, beq_iff_eq, and_assoc, and_left_comm]

/-- **What the index of a script hides**, in terms of its directives and of the ranges that they
yield. -/
lemma hides_ofLines_iff_exists (script : List (List Char)) (n : Int) (id : String) :
    (ofLines script).hides n id = true ↔
      (∃ d ∈ directives (numbered 1 script),
        d.kind = .file ∧ d.line ≤ headerLines ∧ d.covers id = true) ∨
      (∃ d ∈ directives (numbered 1 script), d.kind = .below ∧ d.line ≤ n ∧ d.covers id = true) ∨
      (∃ range ∈ (pairing script (directives (numbered 1 script))).1, range.hides n id = true) ∨
      (∃ d ∈ directives (numbered 1 script), d.kind = .line ∧ d.line = n ∧ d.covers id = true) ∨
      (∃ d ∈ directives (numbered 1 script),
        d.kind = .nextLine ∧ d.line = n - 1 ∧ d.covers id = true) := by
  unfold ofLines
  simp only [hides_of_iff, exists_below_iff, anyCovers_row_tableOf_iff, anyCovers_map_filter,
    Bool.and_eq_true, beq_iff_eq, decide_eq_true_eq, and_assoc, pairing]

/-! ## The meaning of directives -/

/-- **The lines that a directive reaches**, by its kind: the directive stands on line `k`, and
`after` are the directives that are read behind it. -/
def Reaches (script : List (List Char)) (k : Int) (kind : DirectiveKind) (after : List Directive)
    (n : Int) : Prop :=
  match kind with
  | .file => k ≤ 10
  | .below => k ≤ n
  | .function => ∃ s e, IsFunctionSpan script k s e ∧ s ≤ n ∧ n ≤ e
  | .blockStart => ∃ e, ClosesAt 0 after e ∧ k ≤ n ∧ n ≤ e.line
  | .blockEnd => False
  | .nextLine => n = k + 1
  | .line => n = k

/-- **The ranges of a script** hide what its function directives and its blocks reach.

**Proof sketch.** A range comes from a function directive or from a block, and its ids are those of
the directive or of the beginning of the block.  Each kind reaches the lines of its range, by
definition of what it reaches. -/
lemma exists_range_hides_iff (script : List (List Char)) (n : Int) (id : String) :
    (∃ range ∈ (pairing script (directives (numbered 1 script))).1, range.hides n id = true) ↔
      ∃ before d after, directives (numbered 1 script) = before ++ d :: after ∧
        (d.kind = .function ∨ d.kind = .blockStart) ∧ d.covers id = true ∧
        Reaches script d.line d.kind after n := by
  unfold pairing
  simp only [mem_pairUp_iff, LineRange.hides_iff, not_isOpenBlock_nil, or_false]
  constructor
  · rintro ⟨range, ⟨d, hmem, hkind, hrange⟩ | ⟨before, d, after, e, hread, hkind, hcloses, rfl⟩,
      hlines, hcovers⟩
    · obtain ⟨before, after, hread⟩ := List.append_of_mem hmem
      obtain ⟨hspan, hids⟩ := (functionRange?_eq_some_iff script d range).mp hrange
      rw [hids] at hcovers
      refine ⟨before, d, after, hread, Or.inl hkind, hcovers, ?_⟩
      rw [hkind]
      exact ⟨range.first, range.last, hspan, hlines⟩
    · refine ⟨before, d, after, hread, Or.inr hkind, hcovers, ?_⟩
      rw [hkind]
      exact ⟨e, hcloses, hlines⟩
  · rintro ⟨before, d, after, hread, hkind | hkind, hcovers, hreaches⟩
    · rw [hkind] at hreaches
      obtain ⟨s, e, hspan, hlines⟩ := hreaches
      refine ⟨⟨s, e, d.ids⟩, Or.inl ⟨d, ?_, hkind, ?_⟩, hlines, hcovers⟩
      · rw [hread]
        exact List.mem_append_right _ List.mem_cons_self
      · exact (functionRange?_eq_some_iff script d _).mpr ⟨hspan, rfl⟩
    · rw [hkind] at hreaches
      obtain ⟨e, hcloses, hlines⟩ := hreaches
      exact ⟨blockRange d e, Or.inr ⟨before, d, after, e, hread, hkind, hcloses, rfl⟩,
        hlines, hcovers⟩

/-- **What the index of a script hides.**  A check is left out on line `n` if and only if a
directive found on some line `k` of the script is about the check and reaches line `n`.

**Proof sketch.** The index keeps file directives, those that count from their line on, those about
a single line and those about ranges apart.  Each part hides what its directives reach: for ranges
this is `exists_range_hides_iff`, and the others list the directives of one kind. -/
theorem hides_ofLines_iff (script : List (List Char)) (n : Int) (id : String) :
    (ofLines script).hides n id = true ↔
      ∃ k before d after, Occurs script k before d after ∧ d.covers id = true ∧
        Reaches script k d.kind after n := by
  rw [hides_ofLines_iff_exists, exists_range_hides_iff]
  constructor
  · -- a directive of any part occurs on its line
    have hoccurs : ∀ d ∈ directives (numbered 1 script), d.covers id = true →
        (∀ after, Reaches script d.line d.kind after n) →
        ∃ k before d after, Occurs script k before d after ∧ d.covers id = true ∧
          Reaches script k d.kind after n := by
      intro d hmem hcovers hreaches
      obtain ⟨before, after, h⟩ := (mem_directives_iff script d).mp hmem
      exact ⟨d.line, before, d, after, h, hcovers, hreaches after⟩
    rintro (⟨d, hmem, hkind, hline, hcovers⟩ | ⟨d, hmem, hkind, hline, hcovers⟩ |
      ⟨before, d, after, hread, -, hcovers, hreaches⟩ | ⟨d, hmem, hkind, hline, hcovers⟩ |
      ⟨d, hmem, hkind, hline, hcovers⟩)
    · exact hoccurs d hmem hcovers fun after => by rw [hkind]; exact hline
    · exact hoccurs d hmem hcovers fun after => by rw [hkind]; exact hline
    · exact ⟨d.line, before, d, after, (occurs_iff ..).mpr ⟨hread, rfl⟩, hcovers, hreaches⟩
    · exact hoccurs d hmem hcovers fun after => by rw [hkind]; exact hline.symm
    · refine hoccurs d hmem hcovers fun after => ?_
      rw [hkind]
      show n = d.line + 1
      omega
  · rintro ⟨k, before, d, after, hoccurs, hcovers, hreaches⟩
    obtain ⟨hread, rfl⟩ := (occurs_iff ..).mp hoccurs
    have hmem := (mem_directives_iff script d).mpr ⟨before, after, hoccurs⟩
    cases hkind : d.kind with
    | file =>
      rw [hkind] at hreaches
      exact Or.inl ⟨d, hmem, hkind, hreaches, hcovers⟩
    | below =>
      rw [hkind] at hreaches
      exact Or.inr (Or.inl ⟨d, hmem, hkind, hreaches, hcovers⟩)
    | function =>
      exact Or.inr (Or.inr (Or.inl ⟨before, d, after, hread, Or.inl hkind, hcovers, hreaches⟩))
    | blockStart =>
      exact Or.inr (Or.inr (Or.inl ⟨before, d, after, hread, Or.inr hkind, hcovers, hreaches⟩))
    | blockEnd =>
      rw [hkind] at hreaches
      exact hreaches.elim
    | nextLine =>
      rw [hkind] at hreaches
      have hline : n = d.line + 1 := hreaches
      exact Or.inr (Or.inr (Or.inr (Or.inr ⟨d, hmem, hkind, by omega, hcovers⟩)))
    | line =>
      rw [hkind] at hreaches
      have hline : n = d.line := hreaches
      exact Or.inr (Or.inr (Or.inr (Or.inl ⟨d, hmem, hkind, hline.symm, hcovers⟩)))

end ScriptAudit.Suppression
