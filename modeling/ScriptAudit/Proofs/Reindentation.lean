import Mathlib.Data.List.Forall2
import ScriptAudit.Function.Metrics
import ScriptAudit.Proofs.ArmCounting

/-!
# Indenting a body differently

The measures of a body look at its indentation, but neither at where the body as a whole stands nor
at the characters it is indented with.  If every line is moved to the right by the same number of
units, with a margin of spaces and tabs of its own, or if tabs at the beginning of lines are
replaced by spaces, the texts of the lines stay, and all widths grow by the same number.  Nesting is
a difference of levels, and the stack of open `match` blocks only compares widths with each other.

## Main definitions

* `ScriptAudit.Script.Indents` — a line is moved to the right.
* `ScriptAudit.Script.Untabs` — tabs at the beginning of a line are replaced.
* `ScriptAudit.Script.MovedBy` — what both have in common.
* `ScriptAudit.Body.SameMeasures` — two bodies are measured alike.

## Main results

* `ScriptAudit.Body.furtherArms_map_moved` — moving lines and open blocks together changes no count
  of arms.
* `ScriptAudit.Body.sameMeasures_of_reindented` — indenting a body differently does not change its
  measures.
-/

set_option relaxedAutoImplicit false
set_option autoImplicit false

namespace ScriptAudit

open Text

/-! ## Lines -/

namespace Script

/-- **A line is moved to the right** by some units: spaces and tabs are put in front of it, a tab
counting as one unit. -/
def Indents (units : Nat) (raw raw' : List Char) : Prop :=
  ∃ margin : List Char, (∀ c ∈ margin, c = ' ' ∨ c = '\t') ∧
    margin.count ' ' + indentUnit * margin.count '\t' = indentUnit * units ∧ raw' = margin ++ raw

/-- **Tabs at the beginning of a line are replaced**, any number of them and each by four spaces, up
to the first character that is not blank. -/
inductive Untabs : List Char → List Char → Prop where
  | rest (raw : List Char) : Untabs raw raw
  | tab {raw raw' : List Char} (h : Untabs raw raw') :
      Untabs ('\t' :: raw) (' ' :: ' ' :: ' ' :: ' ' :: raw')
  | blank {c : Char} (hc : isBlank c = true) {raw raw' : List Char} (h : Untabs raw raw') :
      Untabs (c :: raw) (c :: raw')

/-- Two lines have the same text, and the second one stands further to the right by some units. -/
structure MovedBy (units : Nat) (raw raw' : List Char) : Prop where
  trim_eq : trim raw' = trim raw
  indentWidth_eq : indentWidth raw' = indentUnit * units + indentWidth raw

/-- The width of a margin is added to that of the line behind it.

**Proof sketch.** Induction on the margin.  A space adds one column, and a tab adds a whole unit. -/
lemma indentWidth_append {margin : List Char} (h : ∀ c ∈ margin, c = ' ' ∨ c = '\t')
    (raw : List Char) :
    indentWidth (margin ++ raw) =
      margin.count ' ' + indentUnit * margin.count '\t' + indentWidth raw := by
  induction margin with
  | nil => simp
  | cons c rest ih =>
    have hrest := ih fun d hd => h d (List.mem_cons_of_mem c hd)
    rcases h c List.mem_cons_self with rfl | rfl
    · rw [List.cons_append, indentWidth, hrest, List.count_cons_self,
        List.count_cons_of_ne (by decide)]
      omega
    · rw [List.cons_append, indentWidth, hrest, List.count_cons_self,
        List.count_cons_of_ne (by decide), Nat.mul_succ]
      omega

/-- A line that is indented further is moved to the right. -/
lemma Indents.movedBy {units : Nat} {raw raw' : List Char} (h : Indents units raw raw') :
    MovedBy units raw raw' := by
  obtain ⟨margin, hmargin, hwidth, rfl⟩ := h
  have hblank : isBlankText margin = true := by
    rw [isBlankText, List.all_eq_true]
    intro c hc
    rcases hmargin c hc with rfl | rfl <;> decide
  exact ⟨trim_append_of_isBlankText hblank raw, by rw [indentWidth_append hmargin, hwidth]⟩

/-- Behind a blank, two lines have equal texts and widths if they have so from there on.

**Proof sketch.** A blank is trimmed from both lines.  A space or a tab adds the same width to both,
and any other blank ends the indentation of both. -/
lemma MovedBy.cons {c : Char} (hc : isBlank c = true) {raw raw' : List Char}
    (h : MovedBy 0 raw raw') :
    MovedBy 0 (c :: raw) (c :: raw') := by
  have hwidth : indentWidth raw' = indentWidth raw := by simpa using h.indentWidth_eq
  constructor
  · have hblank : isBlankText [c] = true := by simpa [isBlankText] using hc
    have htrim (s : List Char) : trim (c :: s) = trim s := trim_append_of_isBlankText hblank s
    rw [htrim, htrim, h.trim_eq]
  · rw [Nat.mul_zero, Nat.zero_add]
    by_cases hspace : c = ' '
    · subst hspace
      rw [indentWidth, indentWidth, hwidth]
    · by_cases htab : c = '\t'
      · subst htab
        rw [indentWidth, indentWidth, hwidth]
      · -- another blank ends the indentation of both lines
        simp [indentWidth, hspace, htab]

/-- A line whose tabs are replaced is not moved.

**Proof sketch.** Induction on the replacements.  A tab and the spaces in its place have the same
width, and both are trimmed. -/
lemma Untabs.movedBy {raw raw' : List Char} (h : Untabs raw raw') : MovedBy 0 raw raw' := by
  induction h with
  | rest raw => exact ⟨rfl, by simp⟩
  | tab _ ih =>
    constructor
    · have hspaces : isBlankText [' ', ' ', ' ', ' '] = true := by decide
      have htab : isBlankText ['\t'] = true := by decide
      exact (trim_append_of_isBlankText hspaces _).trans
        (ih.trim_eq.trans (trim_append_of_isBlankText htab _).symm)
    · have hwidth := ih.indentWidth_eq
      simp only [indentWidth, indentUnit] at hwidth ⊢
      omega
  | blank hc _ ih => exact ih.cons hc

end Script

/-! ## Bodies -/

namespace Body

open Script

/-- The line further to the right by some columns. -/
def CodeLine.moved (columns : Nat) (line : CodeLine) : CodeLine :=
  { line with width := columns + line.width }

/-- The block further to the right by some columns, its arms included. -/
def OpenMatch.moved (columns : Nat) (block : OpenMatch) : OpenMatch :=
  ⟨columns + block.width, block.armWidth.map (columns + ·)⟩

section Moved

variable (columns : Nat)

/-- Moving lines changes no decisions. -/
lemma totalDecisions_map_moved (lines : List CodeLine) :
    totalDecisions (lines.map (.moved columns)) = totalDecisions lines := by
  unfold totalDecisions
  rw [List.foldr_map]
  rfl

/-- A line that is moved ends the same blocks. -/
lemma stillOpen_moved (blocks : List OpenMatch) (line : CodeLine) :
    stillOpen (blocks.map (.moved columns)) (line.moved columns) =
      (stillOpen blocks line).map (.moved columns) := by
  unfold stillOpen
  rw [List.dropWhile_map]
  refine congrArg (fun p => (blocks.dropWhile p).map _) (funext fun block => ?_)
  simp [CodeLine.moved, OpenMatch.moved]

/-- A line that is moved is an arm if it was one before. -/
lemma armsAt_moved (blocks : List OpenMatch) (line : CodeLine) :
    armsAt (blocks.map (.moved columns)) (line.moved columns) = armsAt blocks line := by
  unfold armsAt
  rcases blocks with _ | ⟨⟨width, _ | armWidth⟩, outer⟩
  · rfl
  · rfl
  · simp [CodeLine.moved, OpenMatch.moved]

/-- A line that is moved leaves the same blocks open.

**Proof sketch.** By the innermost block.  Whether the line stands in its column of arms does not
change when both are moved, and a block that is opened takes the width of the line. -/
lemma blocksAfter_moved (blocks : List OpenMatch) (line : CodeLine) :
    blocksAfter (blocks.map (.moved columns)) (line.moved columns) =
      (blocksAfter blocks line).map (.moved columns) := by
  have hopened (blocks : List OpenMatch) :
      openedBy (line.moved columns) (blocks.map (.moved columns)) =
        (openedBy line blocks).map (.moved columns) := by
    have hcode : (line.moved columns).code = line.code := rfl
    unfold openedBy
    rw [hcode]
    split <;> rfl
  rcases blocks with _ | ⟨⟨width, _ | armWidth⟩, outer⟩
  · exact hopened []
  · rfl
  · have hmoved : (line.moved columns).width = columns + armWidth ↔ line.width = armWidth :=
      Nat.add_left_cancel_iff
    by_cases harm : line.width = armWidth
    · rw [blocksAfter, if_pos harm]
      exact if_pos (hmoved.mpr harm)
    · rw [blocksAfter, if_neg harm, ← hopened]
      exact if_neg (hmoved.not.mpr harm)

/-- **Moving lines and open blocks** to the right by the same number of columns changes no count of
arms.

**Proof sketch.** Induction on the lines.  The first line ends the same blocks, adds the same to the
count, and leaves the same blocks open, all of them moved. -/
lemma furtherArms_map_moved (blocks : List OpenMatch) (lines : List CodeLine) :
    furtherArms (blocks.map (.moved columns)) (lines.map (.moved columns)) =
      furtherArms blocks lines := by
  induction lines generalizing blocks with
  | nil => rw [List.map_nil, furtherArms, furtherArms]
  | cons line rest ih =>
    rw [List.map_cons, furtherArms_cons, furtherArms_cons, stillOpen_moved, armsAt_moved,
      blocksAfter_moved, ih]

/-- Depth below a level does not change if all levels grow by the same amount. -/
lemma depthBelow_map_add (base : Nat) (levels : List Nat) :
    depthBelow (columns + base) (levels.map (columns + ·)) = depthBelow base levels := by
  induction levels with
  | nil => rfl
  | cons level rest ih => rw [List.map_cons, depthBelow, depthBelow, ih, Nat.add_sub_add_left]

end Moved

section MovedBy

variable {units : Nat} {body body' : List (List Char)} (h : List.Forall₂ (MovedBy units) body body')
include h

/-- The code of a moved body is that of the body, further to the right.

**Proof sketch.** Induction on the lines.  The code part is taken from the trimmed line, which is
the same, and the width has grown by that of the units. -/
lemma codeLines_of_movedBy :
    codeLines body' = (codeLines body).map (.moved (indentUnit * units)) := by
  induction h with
  | nil => rfl
  | @cons raw raw' _ _ hline _ ih =>
    have hcode : codeLine? raw' = (codeLine? raw).map (.moved (indentUnit * units)) := by
      unfold codeLine?
      simp only [hline.trim_eq, hline.indentWidth_eq]
      split <;> rfl
    unfold codeLines at ih ⊢
    rw [List.filterMap_cons, List.filterMap_cons, hcode, ih]
    cases codeLine? raw <;> rfl

/-- The levels of a moved body are those of the body, all greater by the same number.

**Proof sketch.** Induction on the lines.  Blank lines stay blank, and the level of any other one
grows by the units, as its width grows by whole units. -/
lemma levels_of_movedBy : levels body' = (levels body).map (units + ·) := by
  induction h with
  | nil => rfl
  | @cons raw raw' _ _ hline _ ih =>
    have hblank : isBlankText raw' = isBlankText raw := by
      rw [Bool.eq_iff_iff, ← trim_eq_nil_iff, ← trim_eq_nil_iff, hline.trim_eq]
    have hlevel : indentLevel raw' = units + indentLevel raw := by
      unfold indentLevel
      rw [hline.indentWidth_eq]
      exact Nat.mul_add_div (by decide) units (indentWidth raw)
    unfold levels at ih ⊢
    rw [List.filter_cons, List.filter_cons, hblank]
    split
    · rw [List.map_cons, List.map_cons, List.map_cons, hlevel, ih]
    · exact ih

/-- Moved lines are the same lines once they are trimmed. -/
lemma map_trim_of_movedBy : body'.map trim = body.map trim := by
  induction h with
  | nil => rfl
  | cons hline _ ih => rw [List.map_cons, List.map_cons, hline.trim_eq, ih]

end MovedBy

/-- **Two bodies are measured alike**: they are nested equally deep, are equally complex whether or
not arms count, and make the same functions empty. -/
structure SameMeasures (body body' : List (List Char)) : Prop where
  nesting_eq : nesting body' = nesting body
  complexity_eq : ∀ countArms, complexity countArms body' = complexity countArms body
  doesNothing_eq : ∀ startLine signature,
    Segment.doesNothing ⟨startLine, signature, body'⟩ =
      Segment.doesNothing ⟨startLine, signature, body⟩

/-- A body that is moved as a whole is measured as before.

**Proof sketch.** Nesting compares levels with the first of them, complexity compares widths with
each other, and whether the body does nothing is a matter of its trimmed lines.  None of them
depends on where the body stands. -/
lemma sameMeasures_of_movedBy {units : Nat} {body body' : List (List Char)}
    (h : List.Forall₂ (MovedBy units) body body') : SameMeasures body body' where
  nesting_eq := by
    unfold nesting
    rw [levels_of_movedBy h]
    cases levels body with
    | nil => rfl
    | cons base rest => exact depthBelow_map_add units base rest
  complexity_eq countArms := by
    have harms := furtherArms_map_moved (indentUnit * units) [] (codeLines body)
    rw [List.map_nil] at harms
    simp only [Body.complexity_eq, codeLines_of_movedBy h, totalDecisions_map_moved, harms]
  doesNothing_eq startLine signature := by
    unfold Segment.doesNothing Segment.statements
    rw [map_trim_of_movedBy h]

/-- **Indenting a body differently does not change its measures.**  This is so if every line is
moved to the right by the same number of units, each with a margin of its own, and if tabs at the
beginning of some lines are replaced by four spaces each. -/
theorem sameMeasures_of_reindented (body body' : List (List Char)) :
    (∀ units, List.Forall₂ (Indents units) body body' → SameMeasures body body') ∧
      (List.Forall₂ Untabs body body' → SameMeasures body body') :=
  ⟨fun _ h => sameMeasures_of_movedBy (h.imp fun _ _ hline => hline.movedBy),
    fun h => sameMeasures_of_movedBy (h.imp fun _ _ hline => hline.movedBy)⟩

/-- A `match` with an arm, a line that stands in no column of arms, a blank line, and another
arm. -/
def unevenBody : List (List Char) :=
  ["\tmatch a:", "\t\t1: pass", "\t  \tpass", "   ", "\t\t2: pass"].map (·.toList)

/-- The same lines one unit further to the right, behind spaces or a tab. -/
def unevenBodyMoved : List (List Char) :=
  ["\t\tmatch a:", "    \t\t1: pass", "\t\t  \tpass", "       ", "    \t\t2: pass"].map (·.toList)

/-- The same lines, some of their tabs replaced by spaces. -/
def unevenBodyUntabbed : List (List Char) :=
  ["    match a:", "\t    1: pass", "\t      pass", "   ", "\t\t2: pass"].map (·.toList)

/-- A body whose lines are indented with tabs and spaces at odd columns keeps its measures when it
is moved to the right and when its tabs are replaced. -/
theorem sameMeasures_of_reindented_uneven :
    List.Forall₂ (Indents 1) unevenBody unevenBodyMoved ∧
      List.Forall₂ Untabs unevenBody unevenBodyUntabbed ∧
      SameMeasures unevenBody unevenBodyMoved ∧ SameMeasures unevenBody unevenBodyUntabbed ∧
      complexity true unevenBody = complexity false unevenBody + 1 ∧ nesting unevenBody = 1 := by
  have htab : isBlank '\t' = true := by decide
  have hspace : isBlank ' ' = true := by decide
  have hbyTab (raw : List Char) : Indents 1 raw ('\t' :: raw) := ⟨['\t'], by simp, by decide, rfl⟩
  have hbySpaces (raw : List Char) : Indents 1 raw (' ' :: ' ' :: ' ' :: ' ' :: raw) :=
    ⟨[' ', ' ', ' ', ' '], by simp, by decide, rfl⟩
  have hmoved : List.Forall₂ (Indents 1) unevenBody unevenBodyMoved :=
    .cons (hbyTab _) <| .cons (hbySpaces _) <| .cons (hbyTab _) <| .cons (hbySpaces _) <|
    .cons (hbySpaces _) .nil
  have huntabbed : List.Forall₂ Untabs unevenBody unevenBodyUntabbed :=
    .cons (.tab (.rest _)) <| .cons (.blank htab (.tab (.rest _))) <|
    .cons (.blank htab (.blank hspace (.blank hspace (.tab (.rest _))))) <| .cons (.rest _) <|
    .cons (.rest _) .nil
  exact ⟨hmoved, huntabbed, (sameMeasures_of_reindented _ _).1 1 hmoved,
    (sameMeasures_of_reindented _ _).2 huntabbed, by decide +kernel, by decide +kernel⟩

end Body

end ScriptAudit
