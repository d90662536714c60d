import Mathlib.Algebra.Order.Ring.Nat
import ScriptAudit.Proofs.Indentation

/-!
# Counting the arms of `match` blocks

Whatever the lines of a body look like, however they are indented and wherever blocks seem to begin
and end, counting the arms of `match` blocks only adds to the complexity.  Every line adds one point
at most, and as long as no line opens a block there is nothing to count.  Blank lines and comments
hold no code: they neither add a point nor end a block, at whatever column they stand.

The stack of open blocks is followed one line at a time.  What a line adds to the count and which
blocks it leaves open is said once, and everything else is read off from there.

## Main definitions

* `ScriptAudit.Body.armsAt`, `ScriptAudit.Body.blocksAfter` — what a line adds to the count, and the
  blocks that are open behind it.
* `ScriptAudit.Body.isIdle` — a line is blank or a comment.
* `ScriptAudit.Body.InsertsIdle` — idle lines are inserted into a body.

## Main results

* `ScriptAudit.Body.furtherArms_cons` — the count goes one line at a time.
* `ScriptAudit.Body.complexity_eq` — the one pass over the lines adds up decisions and further arms.
* `ScriptAudit.Body.complexity_countArms` — counting arms only adds, for all bodies.
-/

set_option relaxedAutoImplicit false
set_option autoImplicit false

namespace ScriptAudit.Body

open Text Script

/-! ## One line at a time -/

/-- The blocks that a line does not end. -/
def stillOpen (blocks : List OpenMatch) (line : CodeLine) : List OpenMatch :=
  blocks.dropWhile fun block => decide (line.width ≤ block.width)

/-- What a line adds to the number of arms, given the blocks that it does not end: a point if it
stands in the column of arms of the innermost one. -/
def armsAt (blocks : List OpenMatch) (line : CodeLine) : Nat :=
  if blocks.head?.bind (·.armWidth) = some line.width then 1 else 0

/-- The blocks that are open behind a line, given those that it does not end.  The first line inside
a block fixes the column of its arms; a line that is no arm may open a block. -/
def blocksAfter : List OpenMatch → CodeLine → List OpenMatch
  | [], line => openedBy line []
  | ⟨width, none⟩ :: outer, line => ⟨width, some line.width⟩ :: outer
  | ⟨width, some armWidth⟩ :: outer, line =>
    if line.width = armWidth then ⟨width, some armWidth⟩ :: outer
    else openedBy line (⟨width, some armWidth⟩ :: outer)

/-- **One step of the count**: what the first line adds, and the count of the rest from the blocks
then open. -/
lemma furtherArms_cons (blocks : List OpenMatch) (line : CodeLine) (rest : List CodeLine) :
    furtherArms blocks (line :: rest) =
      armsAt (stillOpen blocks line) line +
        furtherArms (blocksAfter (stillOpen blocks line) line) rest := by
  unfold stillOpen
  rw [furtherArms]
  generalize blocks.dropWhile (fun block => decide (line.width ≤ block.width)) = inside
  rcases inside with _ | ⟨⟨width, _ | armWidth⟩, outer⟩
  · simp [armsAt, blocksAfter]
  · simp [armsAt, blocksAfter]
  · by_cases harm : line.width = armWidth
    · simp [armsAt, blocksAfter, harm]
    · simp [armsAt, blocksAfter, harm, Ne.symm harm]

/-- A line adds one arm at most. -/
lemma armsAt_le_one (blocks : List OpenMatch) (line : CodeLine) : armsAt blocks line ≤ 1 := by
  unfold armsAt
  split <;> omega

/-- No more arms are counted than there are lines.

**Proof sketch.** Induction on the lines: each of them adds one at most. -/
lemma furtherArms_le_length (blocks : List OpenMatch) (lines : List CodeLine) :
    furtherArms blocks lines ≤ lines.length := by
  induction lines generalizing blocks with
  | nil => simp [furtherArms]
  | cons line rest ih =>
    have hline := armsAt_le_one (stillOpen blocks line) line
    have hrest := ih (blocksAfter (stillOpen blocks line) line)
    rw [furtherArms_cons, List.length_cons]
    omega

/-- Where no line opens a block, no block is ever open.

**Proof sketch.** Induction on the lines, with no block open: no line is an arm, and none opens a
block. -/
lemma furtherArms_eq_zero {lines : List CodeLine}
    (h : ∀ line ∈ lines, opensMatch line.code = false) :
    furtherArms [] lines = 0 := by
  induction lines with
  | nil => rw [furtherArms]
  | cons line rest ih =>
    have hopen : stillOpen [] line = [] := rfl
    have hadds : armsAt [] line = 0 := by simp [armsAt]
    have hafter : blocksAfter [] line = [] := by
      simp [blocksAfter, openedBy, h line List.mem_cons_self]
    rw [furtherArms_cons, hopen, hadds, hafter,
      ih fun other hother => h other (List.mem_cons_of_mem _ hother)]

/-! ## The loop over the lines -/

namespace Tally

/-- A line of code adds its decisions once, whether or not it is an arm, and a point if it is a
further arm.

**Proof sketch.** By the innermost block that is still open.  Only if its column of arms is known
can the line be a further arm. -/
lemma points_addArms (tally : Tally) (line : CodeLine) :
    (tally.addArms line).points =
      tally.points + decisions line.code + armsAt (stillOpen tally.blocks line) line := by
  unfold addArms stillOpen
  generalize tally.blocks.dropWhile (fun block => decide (line.width ≤ block.width)) = inside
  rcases inside with _ | ⟨⟨width, _ | armWidth⟩, outer⟩
  · simp [armsAt]
  · simp [armsAt]
  · by_cases harm : line.width = armWidth
    · simp only [harm, if_true, armsAt, List.head?_cons, Option.bind_some]
      omega
    · simp [armsAt, harm, Ne.symm harm]

/-- The blocks behind a line of code do not depend on the points. -/
lemma blocks_addArms (tally : Tally) (line : CodeLine) :
    (tally.addArms line).blocks = blocksAfter (stillOpen tally.blocks line) line := by
  unfold addArms stillOpen
  generalize tally.blocks.dropWhile (fun block => decide (line.width ≤ block.width)) = inside
  rcases inside with _ | ⟨⟨width, _ | armWidth⟩, outer⟩
  · rfl
  · rfl
  · by_cases harm : line.width = armWidth <;> simp [blocksAfter, harm]

/-- A line without code changes nothing. -/
lemma add_of_none {raw : List Char} (h : codeLine? raw = none) (countArms : Bool) (tally : Tally) :
    tally.add countArms raw = tally := by
  rw [add, h]

/-- **The points of the loop**, from any tally: decisions are added up, and further arms if they
count.

**Proof sketch.** Induction on the lines.  The loop goes on from the blocks that a line leaves open,
and the two steps above say what the line itself adds. -/
lemma points_foldl_add (countArms : Bool) (tally : Tally) (body : List (List Char)) :
    (body.foldl (add countArms) tally).points =
      tally.points + totalDecisions (codeLines body) +
        (if countArms then furtherArms tally.blocks (codeLines body) else 0) := by
  induction body generalizing tally with
  | nil => cases countArms <;> simp [codeLines, totalDecisions, furtherArms]
  | cons raw rest ih =>
    rw [List.foldl_cons, ih]
    cases hraw : codeLine? raw with
    | none =>
      have hlines : codeLines (raw :: rest) = codeLines rest := List.filterMap_cons_none hraw
      rw [hlines, add_of_none hraw]
    | some line =>
      have hlines : codeLines (raw :: rest) = line :: codeLines rest :=
        List.filterMap_cons_some hraw
      have htotal : totalDecisions (line :: codeLines rest) =
          decisions line.code + totalDecisions (codeLines rest) := rfl
      simp only [add, hraw, hlines, htotal]
      cases countArms with
      | false =>
        simp only [Bool.false_eq_true, if_false]
        omega
      | true =>
        simp only [if_true, points_addArms, blocks_addArms, furtherArms_cons]
        omega

end Tally

/-- **What complexity counts**: one, the decisions of all lines that hold code, and, if arms count,
the arms after the first one of each `match` block. -/
lemma complexity_eq (countArms : Bool) (body : List (List Char)) :
    complexity countArms body =
      1 + totalDecisions (codeLines body) +
        (if countArms then furtherArms [] (codeLines body) else 0) :=
  Tally.points_foldl_add countArms ⟨1, []⟩ body

/-- Counting arms adds the further arms, and nothing else changes. -/
lemma complexity_true_eq (body : List (List Char)) :
    complexity true body = complexity false body + furtherArms [] (codeLines body) := by
  simp [complexity_eq]

/-! ## Idle lines -/

/-- Whether a line is blank or a comment. -/
def isIdle (raw : List Char) : Bool := isBlankText raw || isComment (trim raw)

/-- **Idle lines are inserted** into a body, at any places. -/
inductive InsertsIdle : List (List Char) → List (List Char) → Prop where
  | nil : InsertsIdle [] []
  | keep (raw : List Char) {body body' : List (List Char)} (h : InsertsIdle body body') :
      InsertsIdle (raw :: body) (raw :: body')
  | idle {raw : List Char} (hraw : isIdle raw = true) {body body' : List (List Char)}
      (h : InsertsIdle body body') : InsertsIdle body (raw :: body')

/-- A comment holds no code: its number sign is not inside a literal, and all from there on is cut
off. -/
lemma code_of_isComment {text : List Char} (h : isComment text = true) : code text = [] := by
  cases text with
  | nil => simp [isComment] at h
  | cons c rest =>
    obtain rfl : c = '#' := by simpa [isComment] using h
    obtain ⟨more, hmore⟩ := exists_emptyLiterals_eq_cons '#' rest
    rw [code, hmore, List.takeWhile_cons_of_neg (by decide)]
    rfl

/-- An idle line holds no code. -/
lemma codeLine?_of_isIdle {raw : List Char} (h : isIdle raw = true) : codeLine? raw = none := by
  have hcode : code (trim raw) = [] := by
    rcases Bool.or_eq_true_iff.mp h with hblank | hcomment
    · rw [(trim_eq_nil_iff raw).mpr hblank, code, emptyLiterals]
      rfl
    · exact code_of_isComment hcomment
  simp [codeLine?, hcode]

/-- Inserting idle lines does not change the lines that hold code. -/
lemma codeLines_of_insertsIdle {body body' : List (List Char)} (h : InsertsIdle body body') :
    codeLines body' = codeLines body := by
  induction h with
  | nil => rfl
  | keep raw _ ih =>
    unfold codeLines at ih ⊢
    rw [List.filterMap_cons, List.filterMap_cons, ih]
  | idle hraw _ ih =>
    unfold codeLines at ih ⊢
    rw [List.filterMap_cons_none (codeLine?_of_isIdle hraw), ih]

/-- Lines that hold code are not idle. -/
lemma length_codeLines_le (body : List (List Char)) :
    (codeLines body).length ≤ body.countP (!isIdle ·) := by
  rw [codeLines, List.length_filterMap_eq_countP]
  apply List.countP_mono_left
  intro raw _ hsome
  cases hidle : isIdle raw with
  | false => rfl
  | true => simp [codeLine?_of_isIdle hidle] at hsome

/-- A line that holds code is a line of the body, without what is not code. -/
lemma exists_of_mem_codeLines {body : List (List Char)} {line : CodeLine}
    (h : line ∈ codeLines body) :
    ∃ raw ∈ body, line.code = code (trim raw) := by
  obtain ⟨raw, hraw, hline⟩ := List.mem_filterMap.mp h
  unfold codeLine? at hline
  simp only [Option.ite_none_left_eq_some, Option.some.injEq] at hline
  exact ⟨raw, hraw, by rw [← hline.2]⟩

/-! ## Whole bodies -/

/-- The decisions of a body are those of its lines, each counted once; a line without code has none.

**Proof sketch.** Induction on the lines.  A line is dropped from the code lines exactly if its code
part is empty, and the empty text has no decisions. -/
lemma totalDecisions_codeLines (body : List (List Char)) :
    totalDecisions (codeLines body) = (body.map fun raw => decisions (code (trim raw))).sum := by
  induction body with
  | nil => rfl
  | cons raw rest ih =>
    unfold codeLines at ih ⊢
    rw [List.map_cons, List.sum_cons, ← ih, List.filterMap_cons]
    cases hcode : code (trim raw) with
    | nil =>
      have hline : codeLine? raw = none := by simp [codeLine?, hcode]
      have hnone : decisions [] = 0 := by decide
      rw [hline, hnone, Nat.zero_add]
    | cons c more =>
      have hline : codeLine? raw = some ⟨indentWidth raw, c :: more⟩ := by simp [codeLine?, hcode]
      rw [hline]
      rfl

/-- **Counting arms only adds**, whatever the lines of a body are.  Without it, complexity is one
more than the decisions of all lines, so at least one, and counting arms does not lower it.  It adds
nothing if no line opens a `match`, and never more than the number of lines that are neither blank
nor comments.  Inserting blank lines and comments changes no complexity.

**Proof sketch.** The two sums are read off the loop by `complexity_eq` and `complexity_true_eq`,
and the inequalities follow from what bounds the further arms.  Without a `match` no arm is counted,
and lines that hold no code change neither sum. -/
theorem complexity_countArms (body : List (List Char)) :
    complexity false body = 1 + (body.map fun raw => decisions (code (trim raw))).sum ∧
      1 ≤ complexity false body ∧ complexity false body ≤ complexity true body ∧
      ((∀ raw ∈ body, opensMatch (code (trim raw)) = false) →
        complexity true body = complexity false body) ∧
      complexity true body ≤ complexity false body + body.countP (!isIdle ·) ∧
      ∀ body', InsertsIdle body body' →
        ∀ countArms, complexity countArms body' = complexity countArms body := by
  have hlines := furtherArms_le_length [] (codeLines body)
  have hidle := length_codeLines_le body
  have hfalse : complexity false body =
      1 + (body.map fun raw => decisions (code (trim raw))).sum := by
    simp [complexity_eq, totalDecisions_codeLines]
  have htrue := complexity_true_eq body
  refine ⟨hfalse, by omega, by omega, fun hopens => ?_, by omega,
    fun body' hinserts countArms => ?_⟩
  · rw [htrue, furtherArms_eq_zero, Nat.add_zero]
    intro line hline
    obtain ⟨raw, hraw, hcode⟩ := exists_of_mem_codeLines hline
    rw [hcode, hopens raw hraw]
  · rw [complexity_eq, complexity_eq, codeLines_of_insertsIdle hinserts]

/-- A `match` with two arms, and a line to the left of it that opens none. -/
def twoArms : List (List Char) :=
  ["\tmatch a:", "\t\t1: pass", "\t\t2: pass", "if b or c: pass"].map (·.toList)

/-- The same lines, with comments to the left and to the right of the arms and a blank line between
them. -/
def twoArmsSpaced : List (List Char) :=
  ["\tmatch a:", "# first", "\t\t1: pass", " \t", "\t\t\t# match b:", "\t\t2: pass",
    "if b or c: pass"].map (·.toList)

/-- Comments and a blank line between the arms change neither complexity; of the two arms, the
second one adds a point, and none does if the header is taken away. -/
theorem complexity_countArms_spaced :
    InsertsIdle twoArms twoArmsSpaced ∧ complexity true twoArmsSpaced = 5 ∧
      complexity false twoArmsSpaced = 4 ∧
      complexity true (twoArms.drop 1) = complexity false (twoArms.drop 1) := by
  have hinserts : InsertsIdle twoArms twoArmsSpaced :=
    .keep _ <| .idle (by decide) <| .keep _ <| .idle (by decide) <| .idle (by decide) <| .keep _ <|
    .keep _ .nil
  obtain ⟨-, -, -, -, -, hsame⟩ := complexity_countArms twoArms
  obtain ⟨-, -, -, hplain, -⟩ := complexity_countArms (twoArms.drop 1)
  rw [hsame _ hinserts, hsame _ hinserts]
  exact ⟨hinserts, by decide +kernel, by decide +kernel, hplain (by decide +kernel)⟩

end ScriptAudit.Body
