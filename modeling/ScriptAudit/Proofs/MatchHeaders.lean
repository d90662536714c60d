import Mathlib.Data.List.Infix
import Mathlib.Tactic.Common
import ScriptAudit.Proofs.ArmCounting
import ScriptAudit.Proofs.DecisionWords

/-!
# Headers of `match` blocks

A line whose first word is `match` adds a point to the complexity of its body, whatever follows the
word.  The arms below it are counted only if the line opens a block, and for this a space or an
opening parenthesis has to stand right behind the word.  So the two readings of a header differ if
anything else stands there, a tab or an opening bracket for instance: the header is counted, and its
arms are not.

## Main definitions

* `ScriptAudit.Script.isSetOff` — a space or an opening parenthesis stands right behind the first
  word.
* `ScriptAudit.Body.openBehind` — the blocks that are open behind some lines.
* `ScriptAudit.Body.isArmOf` — a line is an arm of the innermost open block.

## Main results

* `ScriptAudit.Body.furtherArms_append` — the count of arms goes on from the blocks that are open.
* `ScriptAudit.Body.opensMatch_iff_isSetOff` — which headers open a block, and what becomes of their
  arms.
-/

set_option relaxedAutoImplicit false
set_option autoImplicit false

namespace ScriptAudit.Script

open Text

/-- Whether a space or an opening parenthesis stands right behind the first word of a text. -/
def isSetOff (text : List Char) : Bool :=
  (text.dropWhile isWordChar).head?.any fun c => c == ' ' || c == '('

/-- A text begins with a word and a separator exactly if this is its first word, and the separator
follows.

**Proof sketch.** The separator is no word character, so the first word ends before it.  Conversely
the text is its first word followed by the rest, and the rest begins with the separator. -/
lemma isPrefixOf_concat_iff {word : List Char} (hword : word.all isWordChar = true)
    {separator : Char} (hseparator : isWordChar separator = false) (text : List Char) :
    (word ++ [separator]).isPrefixOf text = true ↔
      firstWord text = word ∧ (text.dropWhile isWordChar).head? = some separator := by
  rw [List.isPrefixOf_iff_prefix]
  constructor
  · rintro ⟨rest, rfl⟩
    have hstop : (separator :: rest).head?.any isWordChar = false := hseparator
    rw [List.append_assoc, List.singleton_append, firstWord, takeWhile_run hword hstop,
      dropWhile_run hword hstop]
    exact ⟨rfl, rfl⟩
  · rintro ⟨rfl, hhead⟩
    obtain ⟨rest, hrest⟩ := List.head?_eq_some_iff.mp hhead
    refine ⟨rest, ?_⟩
    rw [List.append_assoc, List.singleton_append, ← hrest]
    exact List.takeWhile_append_dropWhile

/-- **A header opens a block** if its first word is `match` and is set off from what follows.

**Proof sketch.** A line opens a block if it begins with the word and a space, or with the word and
a parenthesis, and `isPrefixOf_concat_iff` parts the word from what follows. -/
lemma opensMatch_eq_true_iff (text : List Char) :
    opensMatch text = true ↔ firstWord text = "match".toList ∧ isSetOff text = true := by
  have hword : "match".toList.all isWordChar = true := by decide
  have hspace : "match ".toList = "match".toList ++ [' '] := by decide
  have hparenthesis : "match(".toList = "match".toList ++ ['('] := by decide
  have hsetOff : isSetOff text = true ↔ (text.dropWhile isWordChar).head? = some ' ' ∨
      (text.dropWhile isWordChar).head? = some '(' := by
    rw [isSetOff]
    cases (text.dropWhile isWordChar).head? <;> simp
  rw [opensMatch, hspace, hparenthesis, Bool.or_eq_true, isPrefixOf_concat_iff hword (by decide),
    isPrefixOf_concat_iff hword (by decide), ← and_or_left, hsetOff]

/-- The keyword that counts at the start of a text is its first word.

**Proof sketch.** A keyword that is found is the first word of the text, so only one can be found.
If the first word is a keyword, then that one is found. -/
lemma find?_branchKeywords_eq_some_iff {word : List Char} (h : word ∈ branchKeywords)
    (text : List Char) :
    branchKeywords.find? (startsWithWord · text) = some word ↔ firstWord text = word := by
  have hall : ∀ keyword ∈ branchKeywords, keyword.all isWordChar = true := by decide
  have hstarts {keyword : List Char}
      (hfound : branchKeywords.find? (startsWithWord · text) = some keyword) :
      firstWord text = keyword := by
    have htest := List.find?_some (p := (startsWithWord · text)) hfound
    exact (startsWithWord_iff (hall keyword (List.mem_of_find?_eq_some hfound)) text).mp htest
  refine ⟨hstarts, fun hfirst => ?_⟩
  cases hfound : branchKeywords.find? (startsWithWord · text) with
  | none =>
    have htest := (startsWithWord_iff (hall word h) text).mpr hfirst
    exact absurd htest (List.find?_eq_none.mp hfound word h)
  | some keyword => rw [← hstarts hfound, hfirst]

end ScriptAudit.Script

namespace ScriptAudit.Body

open Text Script

/-! ## The blocks that are open -/

/-- The blocks that are open behind some lines, given those that are open before them. -/
def openBehind (blocks : List OpenMatch) (lines : List CodeLine) : List OpenMatch :=
  lines.foldl (fun blocks line => blocksAfter (stillOpen blocks line) line) blocks

/-- Whether a line is an arm of the innermost of some blocks: it stands in the column of its arms,
or it is the first line inside and fixes that column. -/
def isArmOf (blocks : List OpenMatch) (line : CodeLine) : Bool :=
  blocks.head?.any fun block => block.armWidth.all (· == line.width)

/-- **The count goes on** from the blocks that are open behind the first lines. -/
lemma furtherArms_append (blocks : List OpenMatch) (lines rest : List CodeLine) :
    furtherArms blocks (lines ++ rest) =
      furtherArms blocks lines + furtherArms (openBehind blocks lines) rest := by
  induction lines generalizing blocks with
  | nil => simp [furtherArms, openBehind]
  | cons line more ih =>
    rw [List.cons_append, furtherArms_cons, furtherArms_cons, ih, Nat.add_assoc]
    rfl

section NoArm

variable {inside : List OpenMatch} {line : CodeLine} (h : isArmOf inside line = false)
include h

/-- A line that is no arm adds nothing to the count of arms. -/
lemma armsAt_of_not_isArmOf : armsAt inside line = 0 := by
  rcases inside with _ | ⟨⟨width, _ | armWidth⟩, outer⟩
  · rfl
  · rfl
  · have hwidth : armWidth ≠ line.width := by simpa [isArmOf] using h
    simp [armsAt, hwidth]

/-- A line that is no arm opens a block exactly if it is a header whose first word is set off. -/
lemma blocksAfter_of_not_isArmOf :
    blocksAfter inside line =
      if firstWord line.code = "match".toList ∧ isSetOff line.code = true then
        ⟨line.width, none⟩ :: inside
      else inside := by
  have hopened : blocksAfter inside line = openedBy line inside := by
    rcases inside with _ | ⟨⟨width, _ | armWidth⟩, outer⟩
    · rfl
    · simp [isArmOf] at h
    · have hwidth : armWidth ≠ line.width := by simpa [isArmOf] using h
      simp [blocksAfter, hwidth.symm]
  simp only [hopened, openedBy, opensMatch_eq_true_iff]

end NoArm

/-- The arms of a block in which no other one is opened are the lines in its column of arms.

**Proof sketch.** Induction on the lines.  All of them lie inside of the block, so it stays open and
keeps its column; a line adds one exactly if it stands in that column. -/
lemma furtherArms_of_opens_none {width armWidth : Nat} {lines : List CodeLine}
    (h : ∀ line ∈ lines, width < line.width ∧ opensMatch line.code = false) :
    furtherArms [⟨width, some armWidth⟩] lines = lines.countP (·.width == armWidth) := by
  induction lines with
  | nil => rw [furtherArms, List.countP_nil]
  | cons line rest ih =>
    obtain ⟨hwidth, hopens⟩ := h line List.mem_cons_self
    have hopen : stillOpen [⟨width, some armWidth⟩] line = [⟨width, some armWidth⟩] := by
      simp [stillOpen, hwidth]
    have hrest := ih fun other hother => h other (List.mem_cons_of_mem _ hother)
    rw [furtherArms_cons, hopen, List.countP_cons, ← hrest]
    by_cases harm : line.width = armWidth
    · simp [armsAt, blocksAfter, harm, Nat.add_comm]
    · simp [armsAt, blocksAfter, openedBy, hopens, harm, Ne.symm harm]

/-! ## Headers and their arms -/

/-- The lines below a header count as arms only if it is set off.

**Proof sketch.** A header that is not set off opens no block, and neither does any line below it,
so nothing is counted.  A header that is set off opens a block without a column.  The first line
inside fixes the column and is not counted, and from then on `furtherArms_of_opens_none` counts. -/
lemma furtherArms_header {line first : CodeLine} {more : List CodeLine}
    (hfirst : firstWord line.code = "match".toList)
    (hinner : ∀ inner ∈ first :: more, line.width < inner.width ∧ opensMatch inner.code = false) :
    furtherArms [] (line :: first :: more) =
      if isSetOff line.code then more.countP (·.width == first.width) else 0 := by
  cases hsetOff : isSetOff line.code with
  | false =>
    have hopens : opensMatch line.code = false := by
      rw [← Bool.not_eq_true, opensMatch_eq_true_iff, hsetOff]
      simp
    apply furtherArms_eq_zero
    intro other hother
    rcases List.mem_cons.mp hother with rfl | hmem
    · exact hopens
    · exact (hinner other hmem).2
  | true =>
    have hheader : blocksAfter (stillOpen [] line) line = [⟨line.width, none⟩] :=
      (blocksAfter_of_not_isArmOf rfl).trans (if_pos ⟨hfirst, hsetOff⟩)
    have hopen : stillOpen [⟨line.width, none⟩] first = [⟨line.width, none⟩] := by
      simp [stillOpen, hinner first List.mem_cons_self]
    have hadds : armsAt (stillOpen [] line) line = 0 := armsAt_of_not_isArmOf rfl
    -- the first line inside fixes the column of arms and is not counted
    have hcolumn : blocksAfter [⟨line.width, none⟩] first = [⟨line.width, some first.width⟩] := rfl
    have hfirstArm : armsAt [⟨line.width, none⟩] first = 0 := by simp [armsAt]
    rw [furtherArms_cons, hheader, hadds, furtherArms_cons, hopen, hfirstArm, hcolumn, Nat.zero_add,
      Nat.zero_add, if_pos rfl]
    exact furtherArms_of_opens_none fun other hother => hinner other (List.mem_cons_of_mem _ hother)

/-- **Which headers open a block, and what becomes of their arms.**  A line of code opens a block
exactly if its first word is `match` and a space or an opening parenthesis stands right behind it;
the word alone is what makes it count as a `match`, and it adds a point.  So in every body, behind a
line that is no arm of another block the count goes on with one more open block if the line is a
header that is set off, and with the same blocks otherwise.  Of the lines below a header, none of
which opens a block, all in the column of the first one count as further arms if the header is set
off, and none if it is not.

**Proof sketch.** The word alone makes the line count as a decision, by `decisions_eq`.  The count
of arms in a body is cut at the line by `furtherArms_append`, and the lines below a header are
counted by `furtherArms_header`. -/
theorem opensMatch_iff_isSetOff (line : CodeLine) :
    (opensMatch line.code = true ↔ firstWord line.code = "match".toList ∧
      isSetOff line.code = true) ∧
    (branchKeywords.find? (startsWithWord · line.code) = some "match".toList ↔
      firstWord line.code = "match".toList) ∧
    (firstWord line.code = "match".toList → 1 ≤ decisions line.code) ∧
    (∀ body earlier later inside, codeLines body = earlier ++ line :: later →
      stillOpen (openBehind [] earlier) line = inside → isArmOf inside line = false →
        complexity true body = complexity false body + furtherArms [] earlier +
          furtherArms (if firstWord line.code = "match".toList ∧ isSetOff line.code = true then
            ⟨line.width, none⟩ :: inside else inside) later) ∧
    (firstWord line.code = "match".toList → ∀ first more,
      (∀ inner ∈ first :: more, line.width < inner.width ∧ opensMatch inner.code = false) →
        furtherArms [] (line :: first :: more) =
          if isSetOff line.code then more.countP (·.width == first.width) else 0) := by
  refine ⟨opensMatch_eq_true_iff _, find?_branchKeywords_eq_some_iff (by decide) _,
    fun hfirst => ?_, ?_, ?_⟩
  · rw [decisions_eq, hfirst]
    exact Nat.le_add_left _ _
  · intro body earlier later inside hlines hinside harm
    rw [complexity_true_eq, hlines, furtherArms_append, furtherArms_cons, hinside,
      armsAt_of_not_isArmOf harm, blocksAfter_of_not_isArmOf harm]
    omega
  · intro hfirst first more hinner
    exact furtherArms_header hfirst hinner

/-- A header with a parenthesis right behind the keyword. -/
def parenthesisedHeader : CodeLine := ⟨0, "match(a):".toList⟩

/-- Three arms, the second of them with a line below it. -/
def threeArms : List CodeLine :=
  [⟨4, "1: pass".toList⟩, ⟨4, "2:".toList⟩, ⟨8, "pass".toList⟩, ⟨4, "_: pass".toList⟩]

/-- A body that holds the header and its arms. -/
def parenthesisedMatch : List (List Char) :=
  ["var x = 0", "match(a):", "\t1: pass", "\t2:", "\t\tpass", "\t_: pass"].map (·.toList)

/-- The header opens a block, and two of the lines below it are further arms. -/
theorem opensMatch_iff_isSetOff_parenthesised :
    codeLines parenthesisedMatch = [⟨0, "var x = 0".toList⟩] ++ parenthesisedHeader :: threeArms ∧
      opensMatch parenthesisedHeader.code = true ∧
      complexity true parenthesisedMatch =
        complexity false parenthesisedMatch + furtherArms [⟨0, none⟩] threeArms ∧
      furtherArms [] (parenthesisedHeader :: threeArms) = 2 := by
  have hfirst : firstWord parenthesisedHeader.code = "match".toList := by decide +kernel
  have hsetOff : isSetOff parenthesisedHeader.code = true := by decide +kernel
  have hlines : codeLines parenthesisedMatch =
      [⟨0, "var x = 0".toList⟩] ++ parenthesisedHeader :: threeArms := by decide +kernel
  have hinside : stillOpen (openBehind [] [⟨0, "var x = 0".toList⟩]) parenthesisedHeader = [] := by
    decide +kernel
  obtain ⟨hopens, -, -, hbody, harms⟩ := opensMatch_iff_isSetOff parenthesisedHeader
  refine ⟨hlines, hopens.mpr ⟨hfirst, hsetOff⟩, ?_, (harms hfirst _ _ (by decide +kernel)).trans ?_⟩
  · have hcount := hbody _ _ _ _ hlines hinside rfl
    rw [if_pos ⟨hfirst, hsetOff⟩] at hcount
    exact hcount
  · decide +kernel

/-- A `match` with two arms and a tab behind the keyword. -/
def tabbedMatch : List (List Char) :=
  ["\tmatch\tstate:", "\t\t1:", "\t\t\tpass", "\t\t2:", "\t\t\tpass"].map (·.toList)

/-- The same `match` with a space behind the keyword. -/
def spacedMatch : List (List Char) :=
  ["\tmatch state:", "\t\t1:", "\t\t\tpass", "\t\t2:", "\t\t\tpass"].map (·.toList)

/-- With a tab behind the keyword the header counts as a `match`, but its second arm is not
counted. -/
theorem complexity_tabbedMatch :
    firstWord "match\tstate:".toList = "match".toList ∧ opensMatch "match\tstate:".toList = false ∧
      complexity false tabbedMatch = complexity false spacedMatch ∧
      complexity true tabbedMatch = 2 ∧ complexity true spacedMatch = 3 := by
  decide +kernel

end ScriptAudit.Body
