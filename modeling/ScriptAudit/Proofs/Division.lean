import Mathlib.Algebra.BigOperators.Ring.Finset
import Mathlib.Algebra.Ring.Int.Defs
import Mathlib.Tactic.Common
import ScriptAudit.Analysis.Scan
import ScriptAudit.Proofs.FunctionRanges

/-!
# Division of a script into functions

The scan of the functions divides a script at its function declarations.  What a division is can be
said without saying how it is found: the lines before the first function and the lines of the
functions, one behind the other, are the script; functions begin with a declaration and hold no
other one; and each is numbered by where it begins.  A script has exactly one division, and the scan
finds it.

## Main definitions

* `ScriptAudit.Segment.IsDivision` — some lines and some segments are a division of a script.

## Main results

* `ScriptAudit.Segment.isDivision_iff` — a script has one division.
* `ScriptAudit.Segment.isDivision_ofLines` — the segments that are scanned divide the script, and
  the numbers reported about them add up to it.
-/

set_option relaxedAutoImplicit false
set_option autoImplicit false

namespace ScriptAudit.Segment

open Suppression

/-- The lines of a segment. -/
def lines (segment : Segment) : List (List Char) := segment.signature :: segment.body

/-- **A division of a script** whose lines are numbered from `first` on. -/
structure IsDivision (first : Int) (script preamble : List (List Char)) (segments : List Segment) :
    Prop where
  /-- No line is lost, doubled or moved. -/
  script_eq : script = preamble ++ segments.flatMap lines
  /-- No function is declared before the first segment. -/
  preamble_plain : ∀ raw ∈ preamble, isStart raw = false
  /-- A segment begins with a declaration. -/
  signature_start : ∀ segment ∈ segments, isStart segment.signature = true
  /-- No other function is declared in a segment. -/
  body_plain : ∀ segment ∈ segments, ∀ raw ∈ segment.body, isStart raw = false
  /-- A segment begins where the lines above it end. -/
  startLine_eq : ∀ above segment below, segments = above ++ segment :: below →
    segment.startLine = first + (preamble ++ above.flatMap lines).length

/-! ## Dividing line by line -/

/-- Where there are no lines, there is nothing to divide. -/
lemma isDivision_nil (first : Int) (preamble : List (List Char)) (segments : List Segment) :
    IsDivision first [] preamble segments ↔ preamble = [] ∧ segments = [] := by
  constructor
  · intro h
    obtain ⟨hpreamble, hlines⟩ := List.append_eq_nil_iff.mp h.script_eq.symm
    refine ⟨hpreamble, List.eq_nil_iff_forall_not_mem.mpr fun segment hmem => ?_⟩
    exact List.cons_ne_nil _ _ (List.flatMap_eq_nil_iff.mp hlines segment hmem)
  · rintro ⟨rfl, rfl⟩
    exact ⟨rfl, by simp, by simp, by simp, by simp⟩

/-- A line that declares no function belongs to what the lines below it begin with.

**Proof sketch.** The line cannot begin a segment, so it is the first one of the preamble.  Without
it each segment begins one line nearer to the beginning, and the numbering begins one line later. -/
lemma isDivision_cons_plain {raw : List Char} (hraw : isStart raw = false) (first : Int)
    (rest preamble : List (List Char)) (segments : List Segment) :
    IsDivision first (raw :: rest) preamble segments ↔
      ∃ preamble', preamble = raw :: preamble' ∧
        IsDivision (first + 1) rest preamble' segments := by
  constructor
  · intro h
    cases preamble with
    | nil =>
      -- the script would begin with a declaration
      cases segments with
      | nil => exact absurd h.script_eq (List.cons_ne_nil _ _)
      | cons segment below =>
        obtain ⟨rfl, -⟩ := List.cons_eq_cons.mp h.script_eq
        simp [h.signature_start segment List.mem_cons_self] at hraw
    | cons raw' preamble =>
      obtain ⟨rfl, hrest⟩ := List.cons_eq_cons.mp h.script_eq
      refine ⟨preamble, rfl, hrest, ?_, h.signature_start, h.body_plain, ?_⟩
      · exact fun line hline => h.preamble_plain line (List.mem_cons_of_mem _ hline)
      · intro above segment below hsplit
        have hstart := h.startLine_eq above segment below hsplit
        simp only [List.cons_append, List.length_cons] at hstart
        omega
  · rintro ⟨preamble, rfl, h⟩
    refine ⟨by rw [h.script_eq]; rfl, ?_, h.signature_start, h.body_plain, ?_⟩
    · exact List.forall_mem_cons.mpr ⟨hraw, h.preamble_plain⟩
    · intro above segment below hsplit
      have hstart := h.startLine_eq above segment below hsplit
      simp only [List.cons_append, List.length_cons]
      omega

/-- A line that declares a function begins a segment, which goes on with what the lines below it
begin with.

**Proof sketch.** The line cannot belong to the preamble, so the preamble is empty and the line is
the signature of the first segment.  The body of that segment is the preamble of the lines below
it.  The first lines of the segments agree since the numbering of the lines below begins behind the
signature. -/
lemma isDivision_cons_start {raw : List Char} (hraw : isStart raw = true) (first : Int)
    (rest preamble : List (List Char)) (segments : List Segment) :
    IsDivision first (raw :: rest) preamble segments ↔
      preamble = [] ∧ ∃ body below, segments = ⟨first, raw, body⟩ :: below ∧
        IsDivision (first + 1) rest body below := by
  constructor
  · intro h
    cases preamble with
    | cons raw' preamble =>
      obtain ⟨rfl, -⟩ := List.cons_eq_cons.mp h.script_eq
      simp [h.preamble_plain raw List.mem_cons_self] at hraw
    | nil =>
      cases segments with
      | nil => exact absurd h.script_eq (List.cons_ne_nil _ _)
      | cons segment below =>
        obtain ⟨startLine, signature, body⟩ := segment
        obtain ⟨rfl, hrest⟩ := List.cons_eq_cons.mp h.script_eq
        obtain rfl : startLine = first := by simpa using h.startLine_eq [] _ below rfl
        refine ⟨rfl, body, below, rfl, hrest, ?_, ?_, ?_, ?_⟩
        · exact h.body_plain _ List.mem_cons_self
        · exact fun segment hmem => h.signature_start segment (List.mem_cons_of_mem _ hmem)
        · exact fun segment hmem => h.body_plain segment (List.mem_cons_of_mem _ hmem)
        · rintro above segment below' rfl
          have hstart := h.startLine_eq (⟨startLine, raw, body⟩ :: above) segment below' rfl
          simp only [List.nil_append, List.flatMap_cons, lines, List.cons_append,
            List.length_cons] at hstart
          push_cast at hstart ⊢
          omega
  · rintro ⟨rfl, body, below, rfl, h⟩
    refine ⟨?_, by simp, ?_, ?_, ?_⟩
    · rw [h.script_eq]
      rfl
    · exact List.forall_mem_cons.mpr ⟨hraw, h.signature_start⟩
    · exact List.forall_mem_cons.mpr ⟨h.preamble_plain, h.body_plain⟩
    · intro above segment below' hsplit
      cases above with
      | nil =>
        obtain ⟨rfl, -⟩ := List.cons_eq_cons.mp hsplit
        simp
      | cons segment' above =>
        obtain ⟨rfl, htail⟩ := List.cons_eq_cons.mp hsplit
        have hstart := h.startLine_eq above segment below' htail
        simp only [List.nil_append, List.flatMap_cons, lines, List.cons_append, List.length_cons]
        push_cast at hstart ⊢
        omega

/-- **A script has one division**, the one that is found line by line from the end.

**Proof sketch.** Induction on the lines.  Whether the first line declares a function decides to
which part of a division it belongs, and what remains is a division of the lines below it. -/
theorem isDivision_iff (first : Int) (script preamble : List (List Char))
    (segments : List Segment) :
    IsDivision first script preamble segments ↔
      preamble = (divide first script).1 ∧ segments = (divide first script).2 := by
  induction script generalizing first preamble segments with
  | nil => exact isDivision_nil first preamble segments
  | cons raw rest ih =>
    cases hraw : isStart raw with
    | false =>
      simp only [isDivision_cons_plain hraw, ih, divide, hraw, Bool.false_eq_true, if_false]
      constructor
      · rintro ⟨preamble', rfl, rfl, rfl⟩
        exact ⟨rfl, rfl⟩
      · rintro ⟨rfl, rfl⟩
        exact ⟨_, rfl, rfl, rfl⟩
    | true =>
      simp only [isDivision_cons_start hraw, ih, divide, hraw, if_true]
      constructor
      · rintro ⟨rfl, body, below, rfl, rfl, rfl⟩
        exact ⟨rfl, rfl⟩
      · rintro ⟨rfl, rfl⟩
        exact ⟨rfl, _, _, rfl, rfl, rfl⟩

/-! ## Numbers of a division -/

section IsDivision

variable {first : Int} {script preamble : List (List Char)} {segments : List Segment}

/-- The lines of a division add up to those of the script. -/
lemma IsDivision.sum_lineCount (h : IsDivision first script preamble segments) :
    (segments.map (·.lineCount)).sum + preamble.length = script.length := by
  have hcount : segments.map (·.lineCount) = segments.map fun segment => segment.lines.length := rfl
  rw [hcount, ← List.length_flatMap, h.script_eq, List.length_append, Nat.add_comm]

/-- One declaration stands in each segment, and none before them. -/
lemma IsDivision.length_segments (h : IsDivision first script preamble segments) :
    segments.length = script.countP isStart := by
  have hpreamble : preamble.countP isStart = 0 := by
    rw [List.countP_eq_zero]
    exact fun raw hraw => by simp [h.preamble_plain raw hraw]
  have hsegment : ∀ segment ∈ segments, segment.lines.countP isStart = 1 := by
    intro segment hmem
    have hbody : segment.body.countP isStart = 0 := by
      rw [List.countP_eq_zero]
      exact fun raw hraw => by simp [h.body_plain segment hmem raw hraw]
    rw [lines, List.countP_cons_of_pos (h.signature_start segment hmem), hbody]
  have hones : segments.map (List.countP isStart ∘ lines) = segments.map fun _ => 1 :=
    List.map_congr_left hsegment
  rw [h.script_eq, List.countP_append, hpreamble, Nat.zero_add, List.countP_flatMap, hones]
  simp

end IsDivision

/-- The segments of a script begin on increasing lines. -/
lemma pairwise_startLine_ofLines (script : List (List Char)) :
    (ofLines script).Pairwise fun a b => a.startLine < b.startLine := by
  rw [ofLines, ← List.pairwise_map (f := fun s : Segment => s.startLine), map_startLine_divide]
  exact pairwise_declarationLines 1 script

/-- **The segments of a script divide it.**  The lines before the first declaration and the segments
are the one division of the script.  The segments begin on increasing lines, there is one for each
declaration, and the lines reported of the functions, together with those before them, are as many
as the script has.

**Proof sketch.** There is one division only, by `isDivision_iff`, and what is claimed of the
segments holds of any division. -/
theorem isDivision_ofLines (settings : Settings) (file : String) (checks : List FunctionCheck)
    (script : List (List Char)) :
    IsDivision 1 script (preamble script) (ofLines script) ∧
      (∀ before segments, IsDivision 1 script before segments →
        before = preamble script ∧ segments = ofLines script) ∧
      ((ofLines script).Pairwise fun a b => a.startLine < b.startLine) ∧
      (ofLines script).length = script.countP isStart ∧
      ((FunctionScan.run settings file checks script).functions.map (·.lineCount)).sum +
        (preamble script).length = (script.length : Int) := by
  have hdivision : IsDivision 1 script (preamble script) (ofLines script) :=
    (isDivision_iff ..).mpr ⟨rfl, rfl⟩
  refine ⟨hdivision, fun before segments h => (isDivision_iff ..).mp h,
    pairwise_startLine_ofLines script, hdivision.length_segments, ?_⟩
  rw [← hdivision.sum_lineCount, Nat.cast_add, Nat.cast_list_sum, FunctionScan.run, List.map_map,
    List.map_map]
  rfl

end ScriptAudit.Segment
