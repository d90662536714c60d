import Mathlib.Algebra.Order.Ring.Nat
import Mathlib.Data.List.Forall2
import ScriptAudit.Proofs.ArmCounting

/-!
# Statement trees

A body is measured from its lines alone, without parsing them.  What is measured is nevertheless
right for every body that was written down from statements: blocks below their headers, and `match`
blocks whose arms have bodies of their own, nested to any depth.  Complexity is one more than the
decisions of all lines; if arms count, every `match` adds one for each arm after its first; and
nesting is the distance between the level of the first line and the deepest one.

The lines of a `match` are told apart by their columns only.  While the lines of a statement go by,
the stack of open blocks is left as it was found, apart from blocks that the next line closes, and
the arms counted in between are those of the statement.  This is proved by induction on statements.

## Main definitions

* `ScriptAudit.Body.Statement`, `ScriptAudit.Body.Suite`, `ScriptAudit.Body.Arms` — statements,
  non-empty sequences of statements, and the arms of a `match`.
* `ScriptAudit.Body.layout` — the lines of statements with their levels.
* `ScriptAudit.Body.Renders` — a body is written down from statements.
* `ScriptAudit.Body.Statement.extraArms` — the arms after the first one of each `match`.
* `ScriptAudit.Body.linesDecisions`, `ScriptAudit.Body.deepest` — the decisions and the largest
  level of lines.

## Main results

* `ScriptAudit.Body.Statement.furtherArms_lines` — what is counted while the lines of a statement go
  by.
* `ScriptAudit.Body.measures_of_renders` — complexity and nesting of a body are those of its
  statements.
-/

set_option relaxedAutoImplicit false
set_option autoImplicit false

namespace ScriptAudit.Body

open Script

/-! ## Statements -/

/-- The text of a line that opens no `match`. -/
structure PlainText extends CodeText where
  not_opens : opensMatch (code text) = false
  deriving DecidableEq

/-- The text of a line that opens a `match`. -/
structure MatchText extends CodeText where
  opens : opensMatch (code text) = true
  deriving DecidableEq

mutual

/-- A statement. -/
inductive Statement where
  /-- One line. -/
  | simple (line : PlainText)
  /-- A header and the statements below it. -/
  | block (header : PlainText) (body : Suite)
  /-- The header of a `match` and its arms. -/
  | choice (header : MatchText) (arms : Arms)

/-- A sequence of statements that is not empty. -/
inductive Suite where
  | single (statement : Statement)
  | cons (statement : Statement) (rest : Suite)

/-- The arms of a `match`: patterns, each with the statements below it.  The line of a pattern may
read as if it opened a `match`. -/
inductive Arms where
  | nil
  | cons (pattern : CodeText) (body : Suite) (rest : Arms)

end

/-- A text at a level of indentation. -/
structure LevelLine where
  level : Nat
  line : CodeText

mutual

/-- The lines of a statement that stands at a level. -/
def Statement.lines (level : Nat) : Statement → List LevelLine
  | .simple line => [⟨level, line.toCodeText⟩]
  | .block header body => ⟨level, header.toCodeText⟩ :: body.lines (level + 1)
  | .choice header arms => ⟨level, header.toCodeText⟩ :: arms.lines (level + 1)

/-- The lines of a sequence of statements at a level. -/
def Suite.lines (level : Nat) : Suite → List LevelLine
  | .single statement => statement.lines level
  | .cons statement rest => statement.lines level ++ rest.lines level

/-- The lines of arms at a level; their bodies stand one level below. -/
def Arms.lines (level : Nat) : Arms → List LevelLine
  | .nil => []
  | .cons pattern body rest => ⟨level, pattern⟩ :: (body.lines (level + 1) ++ rest.lines level)

end

/-- The number of arms. -/
def Arms.count : Arms → Nat
  | .nil => 0
  | .cons _ _ rest => rest.count + 1

mutual

/-- The number of arms after the first one, of all `match` statements in a statement together. -/
def Statement.extraArms : Statement → Nat
  | .simple _ => 0
  | .block _ body => body.extraArms
  | .choice _ arms => (arms.count - 1) + arms.extraArms

/-- The same number for a sequence of statements. -/
def Suite.extraArms : Suite → Nat
  | .single statement => statement.extraArms
  | .cons statement rest => statement.extraArms + rest.extraArms

/-- The same number for the bodies of arms. -/
def Arms.extraArms : Arms → Nat
  | .nil => 0
  | .cons _ body rest => body.extraArms + rest.extraArms

end

/-! ## Writing down -/

/-- The lines of some statements at a level, one behind the other. -/
def layout (level : Nat) (statements : List Statement) : List LevelLine :=
  statements.flatMap (·.lines level)

/-- A line is written down: its text behind as many units of indentation as it has levels.  Each
unit is a tab or four spaces. -/
def LevelLine.Renders (line : LevelLine) (raw : List Char) : Prop :=
  ∃ units : List IndentUnit, units.length = line.level ∧ raw = indent units ++ line.line.text

/-- **A body that is written down** from statements at a level, line by line. -/
def Renders (level : Nat) (statements : List Statement) (body : List (List Char)) : Prop :=
  List.Forall₂ LevelLine.Renders (layout level statements) body

/-- A line as the measuring sees it. -/
def LevelLine.toCode (line : LevelLine) : CodeLine :=
  ⟨indentUnit * line.level, code line.line.text⟩

/-- The lines of code of a rendered body are the lines that it renders. -/
lemma codeLines_of_forall₂ {lines : List LevelLine} {body : List (List Char)}
    (h : List.Forall₂ LevelLine.Renders lines body) :
    codeLines body = lines.map LevelLine.toCode := by
  induction h with
  | nil => rfl
  | cons hline _ ih =>
    obtain ⟨units, hlevel, rfl⟩ := hline
    unfold codeLines at ih ⊢
    rw [List.filterMap_cons, codeLine?_indent, hlevel, ih, List.map_cons]
    rfl

/-- The levels of a rendered body are those of the lines that it renders. -/
lemma levels_of_forall₂ {lines : List LevelLine} {body : List (List Char)}
    (h : List.Forall₂ LevelLine.Renders lines body) : levels body = lines.map (·.level) := by
  induction h with
  | nil => rfl
  | cons hline _ ih =>
    obtain ⟨units, hlevel, rfl⟩ := hline
    unfold levels at ih ⊢
    rw [List.filter_cons, isBlankText_indent, Bool.not_false, if_pos rfl, List.map_cons,
      List.map_cons, indentLevel_indent, hlevel, ih]

/-! ## The stack of open blocks -/

/-- Header and arms of the innermost open block stand to the left of a column. -/
def Encloses (blocks : List OpenMatch) (width : Nat) : Prop :=
  ∀ block ∈ blocks.head?, block.width < width ∧ ∃ armWidth < width, block.armWidth = some armWidth

/-- Some lines, if there are any, begin no further to the right than a column. -/
def BeginsBy (lines : List CodeLine) (width : Nat) : Prop :=
  ∀ line ∈ lines.head?, line.width ≤ width

/-- Blocks that enclose lines of some indentation enclose lines that are indented further. -/
lemma Encloses.mono {blocks : List OpenMatch} {width width' : Nat} (h : Encloses blocks width)
    (hle : width ≤ width') : Encloses blocks width' := by
  intro block hblock
  obtain ⟨hwidth, armWidth, harm, hsome⟩ := h block hblock
  exact ⟨by omega, armWidth, by omega, hsome⟩

/-- A column further to the right bounds the beginning of lines as well. -/
lemma BeginsBy.mono {lines : List CodeLine} {width width' : Nat} (h : BeginsBy lines width)
    (hle : width ≤ width') : BeginsBy lines width' :=
  fun line hline => (h line hline).trans hle

/-- Lines put together begin no further to the right than both parts do. -/
lemma BeginsBy.append {lines rest : List CodeLine} {width : Nat} (hlines : BeginsBy lines width)
    (hrest : BeginsBy rest width) : BeginsBy (lines ++ rest) width := by
  cases lines with
  | nil => exact hrest
  | cons line more => exact hlines

section Stack

variable {block : OpenMatch} {outer : List OpenMatch} {line : CodeLine} {rest : List CodeLine}

/-- A line inside a block does not end it. -/
lemma dropWhile_cons_of_lt (h : block.width < line.width) :
    (block :: outer).dropWhile (fun block => decide (line.width ≤ block.width)) = block :: outer :=
  List.dropWhile_cons_of_neg (by simpa using h)

/-- A line to the right of all that is open closes nothing and is no arm. -/
lemma furtherArms_of_encloses (h : Encloses outer line.width) :
    furtherArms outer (line :: rest) = furtherArms (openedBy line outer) rest := by
  cases outer with
  | nil => rw [furtherArms, List.dropWhile_nil]
  | cons block more =>
    obtain ⟨width, armWidth⟩ := block
    obtain ⟨hwidth, arm, harm, rfl⟩ := h ⟨width, armWidth⟩ rfl
    rw [furtherArms, dropWhile_cons_of_lt hwidth]
    exact if_neg (by omega)

/-- A block is closed by the next line, unless that stands to the right of its header. -/
lemma furtherArms_of_beginsBy (h : BeginsBy rest block.width) :
    furtherArms (block :: outer) rest = furtherArms outer rest := by
  cases rest with
  | nil => rw [furtherArms, furtherArms]
  | cons line more =>
    have hclosed : line.width ≤ block.width := h line rfl
    rw [furtherArms, furtherArms, List.dropWhile_cons, if_pos (decide_eq_true hclosed)]

/-- A line in the column of arms is a further arm. -/
lemma furtherArms_nextArm {width armWidth : Nat} (h : width < armWidth)
    (hline : line.width = armWidth) :
    furtherArms (⟨width, some armWidth⟩ :: outer) (line :: rest) =
      1 + furtherArms (⟨width, some armWidth⟩ :: outer) rest := by
  subst hline
  rw [furtherArms, dropWhile_cons_of_lt h]
  exact if_pos rfl

/-- The first line inside a block fixes its column of arms and is the one arm that is not
counted. -/
lemma one_add_furtherArms_firstArm {width armWidth : Nat} (h : width < armWidth)
    (hline : line.width = armWidth) :
    1 + furtherArms (⟨width, none⟩ :: outer) (line :: rest) =
      furtherArms (⟨width, some armWidth⟩ :: outer) (line :: rest) := by
  rw [furtherArms_nextArm h hline]
  subst hline
  rw [furtherArms, dropWhile_cons_of_lt h]

end Stack

/-! ## Statements against the stack -/

/-- One level more is four columns more. -/
lemma width_succ (level : Nat) : indentUnit * (level + 1) = indentUnit * level + 4 := rfl

/-- A plain line opens no block. -/
lemma PlainText.openedBy_eq (line : PlainText) (level : Nat) (outer : List OpenMatch) :
    openedBy (LevelLine.toCode ⟨level, line.toCodeText⟩) outer = outer :=
  if_neg (by simp [LevelLine.toCode, line.not_opens])

/-- A header opens a block of its own indentation. -/
lemma MatchText.openedBy_eq (line : MatchText) (level : Nat) (outer : List OpenMatch) :
    openedBy (LevelLine.toCode ⟨level, line.toCodeText⟩) outer =
      ⟨indentUnit * level, none⟩ :: outer :=
  if_pos line.opens

/-- A statement begins at its own level. -/
lemma Statement.beginsBy (statement : Statement) (level : Nat) :
    BeginsBy ((statement.lines level).map LevelLine.toCode) (indentUnit * level) := by
  cases statement <;> simp [Statement.lines, BeginsBy, LevelLine.toCode]

/-- Arms begin at their own level. -/
lemma Arms.beginsBy (arms : Arms) (level : Nat) :
    BeginsBy ((arms.lines level).map LevelLine.toCode) (indentUnit * level) := by
  cases arms <;> simp [Arms.lines, BeginsBy, LevelLine.toCode]

/-- A suite begins at its own level. -/
lemma Suite.beginsBy (suite : Suite) (level : Nat) :
    BeginsBy ((suite.lines level).map LevelLine.toCode) (indentUnit * level) := by
  match suite with
  | .single statement => exact statement.beginsBy level
  | .cons statement rest =>
    rw [Suite.lines, List.map_append]
    exact (statement.beginsBy level).append (rest.beginsBy level)

mutual

/-- **While the lines of a statement go by**, its further arms are counted, and the lines behind it
find the blocks that were open before.

**Proof sketch.** Induction on statements, together with sequences and arms.  A line that opens no
`match` leaves the stack alone, since all that is open lies to its left.  The header of a `match`
puts a block on the stack, the first arm fixes the column of arms, and each further arm is counted;
the bodies of arms lie to the right of that column.  The first line behind the `match` is not to the
right of its header and closes it. -/
theorem Statement.furtherArms_lines (statement : Statement) {level : Nat} {outer : List OpenMatch}
    {rest : List CodeLine} (houter : Encloses outer (indentUnit * level))
    (hrest : BeginsBy rest (indentUnit * level)) :
    furtherArms outer ((statement.lines level).map LevelLine.toCode ++ rest) =
      statement.extraArms + furtherArms outer rest := by
  have hunit := width_succ level
  match statement with
  | .simple line =>
    rw [Statement.lines, List.map_singleton, List.singleton_append, furtherArms_of_encloses houter,
      line.openedBy_eq, Statement.extraArms, Nat.zero_add]
  | .block header body =>
    rw [Statement.lines, List.map_cons, List.cons_append, furtherArms_of_encloses houter,
      header.openedBy_eq, Statement.extraArms]
    exact body.furtherArms_lines (houter.mono (by omega)) (hrest.mono (by omega))
  | .choice header arms =>
    have hright : indentUnit * level < indentUnit * (level + 1) := by omega
    have harms : furtherArms (⟨indentUnit * level, some (indentUnit * (level + 1))⟩ :: outer)
          ((arms.lines (level + 1)).map LevelLine.toCode ++ rest) =
        arms.count + arms.extraArms + furtherArms outer rest := by
      rw [arms.furtherArms_lines hright (hrest.mono hright.le), furtherArms_of_beginsBy hrest]
    rw [Statement.lines, List.map_cons, List.cons_append, furtherArms_of_encloses houter,
      header.openedBy_eq, Statement.extraArms]
    -- Without a first arm the column of arms stays unknown, and the next line closes the block.
    cases arms with
    | nil =>
      rw [Arms.lines, List.map_nil, List.nil_append, furtherArms_of_beginsBy hrest, Arms.count,
        Arms.extraArms, Nat.zero_add]
    | cons pattern body more =>
      rw [Arms.lines, List.map_cons, List.cons_append] at harms ⊢
      have hfirst := (one_add_furtherArms_firstArm hright rfl).trans harms
      rw [Arms.count] at hfirst ⊢
      omega

/-- **The further arms of a suite** are those of its statements, whatever follows it.

**Proof sketch.** Recursion on the statements.  Each of them is followed by another one on the same
level or by what follows the suite, and neither lies to the right of it. -/
theorem Suite.furtherArms_lines (suite : Suite) {level : Nat} {outer : List OpenMatch}
    {rest : List CodeLine} (houter : Encloses outer (indentUnit * level))
    (hrest : BeginsBy rest (indentUnit * level)) :
    furtherArms outer ((suite.lines level).map LevelLine.toCode ++ rest) =
      suite.extraArms + furtherArms outer rest := by
  match suite with
  | .single statement =>
    rw [Suite.lines, Suite.extraArms]
    exact statement.furtherArms_lines houter hrest
  | .cons statement more =>
    rw [Suite.lines, List.map_append, List.append_assoc, Suite.extraArms,
      statement.furtherArms_lines houter ((more.beginsBy level).append hrest),
      more.furtherArms_lines houter hrest, Nat.add_assoc]

/-- The arms of a block whose column of arms is known are counted, all of them.

**Proof sketch.** Recursion on the arms, together with the lemma on the lines of a suite.  The
pattern of an arm stands in the column of arms and is counted; the lines of its body stand further
to the right, so they leave the block open and count only their own arms. -/
theorem Arms.furtherArms_lines (arms : Arms) {level width : Nat} {outer : List OpenMatch}
    {rest : List CodeLine} (hwidth : width < indentUnit * level)
    (hrest : BeginsBy rest (indentUnit * level)) :
    furtherArms (⟨width, some (indentUnit * level)⟩ :: outer)
        ((arms.lines level).map LevelLine.toCode ++ rest) =
      arms.count + arms.extraArms +
        furtherArms (⟨width, some (indentUnit * level)⟩ :: outer) rest := by
  have hunit := width_succ level
  match arms with
  | .nil =>
    rw [Arms.lines, List.map_nil, List.nil_append, Arms.count, Arms.extraArms, Nat.zero_add]
  | .cons pattern body more =>
    have hinside : Encloses (⟨width, some (indentUnit * level)⟩ :: outer)
        (indentUnit * (level + 1)) := by
      rintro block ⟨rfl⟩
      exact ⟨by simp only; omega, indentUnit * level, by omega, rfl⟩
    have hmore : BeginsBy ((more.lines level).map LevelLine.toCode ++ rest)
        (indentUnit * (level + 1)) :=
      ((more.beginsBy level).append hrest).mono (by omega)
    rw [Arms.lines, List.map_cons, List.cons_append, furtherArms_nextArm hwidth rfl,
      List.map_append, List.append_assoc, body.furtherArms_lines hinside hmore,
      more.furtherArms_lines hwidth hrest, Arms.count, Arms.extraArms]
    omega

end

/-! ## Whole bodies -/

/-- The decisions of some lines together. -/
def linesDecisions (lines : List LevelLine) : Nat :=
  (lines.map fun line => decisions (code line.line.text)).sum

/-- The largest of the levels of some lines. -/
def deepest (lines : List LevelLine) : Nat := (lines.map (·.level)).foldr max 0

/-- The decisions of rendered lines are those of their texts. -/
lemma totalDecisions_toCode (lines : List LevelLine) :
    totalDecisions (lines.map LevelLine.toCode) = linesDecisions lines := by
  unfold totalDecisions linesDecisions
  rw [List.foldr_map, List.sum_eq_foldr, List.foldr_map]
  rfl

/-- The depth below a level is that of the deepest line.

**Proof sketch.** Induction on the levels, since subtraction goes into the maximum. -/
lemma depthBelow_eq (base : Nat) (levels : List Nat) :
    depthBelow base levels = levels.foldr max 0 - base := by
  induction levels with
  | nil => rw [depthBelow, List.foldr_nil, Nat.zero_sub]
  | cons level rest ih =>
    rw [depthBelow, List.foldr_cons, ih]
    exact Nat.sub_max_sub_right level (rest.foldr max 0) base

/-- Nesting is the deepest level, counted from that of the first line.

**Proof sketch.** The level of the first line is the one that nesting is counted from, and it is at
most the deepest. -/
lemma nesting_eq_of_levels {body : List (List Char)} {base : Nat}
    (hfirst : ∀ level ∈ (levels body).head?, level = base) :
    nesting body = (levels body).foldr max 0 - base := by
  unfold nesting
  cases hlevels : levels body with
  | nil => exact (Nat.zero_sub base).symm
  | cons level rest =>
    obtain rfl : level = base := hfirst level (by rw [hlevels, List.head?_cons, Option.mem_some])
    simp only [depthBelow_eq, List.foldr_cons]
    omega

/-- Statements are laid out one behind the other. -/
lemma layout_cons (level : Nat) (statement : Statement) (rest : List Statement) :
    layout level (statement :: rest) = statement.lines level ++ layout level rest :=
  List.flatMap_cons

/-- Laid-out statements begin at their level. -/
lemma beginsBy_layout (level : Nat) (statements : List Statement) :
    BeginsBy ((layout level statements).map LevelLine.toCode) (indentUnit * level) := by
  induction statements with
  | nil => exact fun line hline => nomatch hline
  | cons statement rest ih =>
    rw [layout_cons, List.map_append]
    exact (statement.beginsBy level).append ih

/-- The first line of laid-out statements stands at their level. -/
lemma level_of_mem_head?_layout {level : Nat} {statements : List Statement} {first : LevelLine}
    (h : first ∈ (layout level statements).head?) : first.level = level := by
  cases statements with
  | nil => cases h
  | cons statement rest =>
    rw [layout_cons] at h
    cases statement <;> cases h <;> rfl

/-- The further arms of laid-out statements add up.

**Proof sketch.** Induction on the statements; what follows a statement begins at its level, so it
ends the blocks of the statement. -/
lemma furtherArms_layout (level : Nat) (statements : List Statement) :
    furtherArms [] ((layout level statements).map LevelLine.toCode) =
      (statements.map Statement.extraArms).sum := by
  induction statements with
  | nil => rfl
  | cons statement rest ih =>
    have houter : Encloses [] (indentUnit * level) := fun block hblock => nomatch hblock
    rw [layout_cons, List.map_append,
      statement.furtherArms_lines houter (beginsBy_layout level rest), ih, List.map_cons,
      List.sum_cons]

/-- **Complexity and nesting of a body are those of its statements.**  Let a body be written down
from statements.  Its complexity is one more than the decisions of its lines.  If arms count, each
`match` in it, however deep, adds the number of its arms after the first.  Its nesting is the
largest level of a line, less the level of the first line.

**Proof sketch.** The code lines and the levels of the body are those of the layout of the
statements, by `codeLines_of_forall₂` and `levels_of_forall₂`.  Then complexity is that of
`complexity_eq`, and nesting is taken from the level of the first line on. -/
theorem measures_of_renders {level : Nat} {statements : List Statement} {body : List (List Char)}
    (h : Renders level statements body) :
    complexity false body = 1 + linesDecisions (layout level statements) ∧
      complexity true body =
        1 + linesDecisions (layout level statements) + (statements.map Statement.extraArms).sum ∧
      (∀ first ∈ (layout level statements).head?, first.level = level) ∧
      nesting body = deepest (layout level statements) - level := by
  have hcode := codeLines_of_forall₂ h
  have hlevels := levels_of_forall₂ h
  refine ⟨?_, ?_, fun first => level_of_mem_head?_layout, ?_⟩
  · simp [complexity_eq, hcode, totalDecisions_toCode]
  · simp [complexity_eq, hcode, totalDecisions_toCode, furtherArms_layout]
  · have hfirst : ∀ first ∈ (levels body).head?, first = level := by
      intro first hfirst
      rw [hlevels, List.head?_map, Option.mem_def, Option.map_eq_some_iff] at hfirst
      obtain ⟨line, hline, rfl⟩ := hfirst
      exact level_of_mem_head?_layout hline
    rw [nesting_eq_of_levels hfirst, hlevels, deepest]

/-- A `match` with two arms, the first of which holds a `match` with two arms. -/
def nestedMatch : Statement :=
  .choice header (.cons pattern (.single (.choice header (.cons pattern (.single pass)
    (.cons pattern (.single pass) .nil)))) (.cons pattern (.single pass) .nil))
where
  header : MatchText := ⟨⟨"match a:".toList, by decide, by decide, by decide⟩, by cbv⟩
  pattern : CodeText := ⟨"1:".toList, by decide, by decide, by decide⟩
  pass : Statement := .simple ⟨⟨"pass".toList, by decide, by decide, by decide⟩, by cbv⟩

/-- The lines of `nestedMatch`, indented by tabs and spaces. -/
def nestedMatchBody : List (List Char) :=
  ["\tmatch a:", "\t\t1:", "\t\t    match a:", "\t\t\t\t1:", "\t\t\t\t\tpass", "\t\t\t    1:",
    "\t\t\t\t\tpass", "    \t1:", "\t\t\tpass"].map (·.toList)

/-- The lines of the body render the statement. -/
lemma renders_nestedMatch : Renders 1 [nestedMatch] nestedMatchBody :=
  .cons ⟨[.tab], rfl, rfl⟩ <| .cons ⟨[.tab, .tab], rfl, rfl⟩ <|
  .cons ⟨[.tab, .tab, .fourSpaces], rfl, rfl⟩ <| .cons ⟨[.tab, .tab, .tab, .tab], rfl, rfl⟩ <|
  .cons ⟨[.tab, .tab, .tab, .tab, .tab], rfl, rfl⟩ <|
  .cons ⟨[.tab, .tab, .tab, .fourSpaces], rfl, rfl⟩ <|
  .cons ⟨[.tab, .tab, .tab, .tab, .tab], rfl, rfl⟩ <| .cons ⟨[.fourSpaces, .tab], rfl, rfl⟩ <|
  .cons ⟨[.tab, .tab, .tab], rfl, rfl⟩ .nil

/-- The inner and the outer block of this body have one further arm each, and its deepest line lies
four levels below the first. -/
theorem measures_of_renders_nestedMatch :
    complexity true nestedMatchBody = complexity false nestedMatchBody + 2 ∧
      nesting nestedMatchBody = 4 := by
  obtain ⟨hplain, harms, -, hnesting⟩ := measures_of_renders renders_nestedMatch
  have hextra : ([nestedMatch].map Statement.extraArms).sum = 2 := by decide
  have hdeepest : deepest (layout 1 [nestedMatch]) = 5 := by decide
  rw [hextra, ← hplain] at harms
  rw [hdeepest] at hnesting
  exact ⟨harms, hnesting⟩

end ScriptAudit.Body
