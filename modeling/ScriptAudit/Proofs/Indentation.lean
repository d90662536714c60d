import Mathlib.Data.List.DropRight
import Mathlib.Tactic.Common
import ScriptAudit.Function.Body

/-!
# Indented lines

What is read off a line that was written as some units of indentation, each a tab or four spaces,
followed by a text: the text itself, the width of the units, and the code part of the text.

## Main definitions

* `ScriptAudit.Script.IndentUnit`, `ScriptAudit.Script.indent` — units of indentation, and the
  blanks that they stand for.
* `ScriptAudit.Script.CodeText` — the text of a line that holds code.

## Main results

* `ScriptAudit.Script.codeLine?_indent` — the code of an indented line.
* `ScriptAudit.Script.indentLevel_indent` — the level of an indented line.
-/

set_option relaxedAutoImplicit false
set_option autoImplicit false

namespace ScriptAudit.Script

open Text

/-! ## Texts of code -/

/-- The text of a line of code: it is not blank, has no blanks around it, and is not a comment. -/
structure CodeText where
  text : List Char
  not_blank : isBlankText text = false
  trimmed : trim text = text
  not_comment : isComment text = false
  deriving DecidableEq

/-- Nothing is left at the end of a text if and only if it is blank. -/
lemma trimEnd_eq_nil_iff (s : List Char) : trimEnd s = [] ↔ ∀ c ∈ s, isBlank c = true :=
  List.rdropWhile_eq_nil_iff

/-- A text of code begins with a character that is neither blank nor a number sign.

**Proof sketch.** If it began with a blank, taking away the blanks in front would make it shorter,
and taking away those behind it does not make it longer. -/
lemma CodeText.exists_eq_cons (line : CodeText) :
    ∃ c rest, line.text = c :: rest ∧ isBlank c = false ∧ c ≠ '#' := by
  obtain ⟨text, hblank, htrim, hcomment⟩ := line
  cases text with
  | nil => simp [isBlankText] at hblank
  | cons c rest =>
    refine ⟨c, rest, rfl, ?_, ?_⟩
    · by_contra hc
      rw [Bool.not_eq_false] at hc
      have hstart : trimStart (c :: rest) = rest.dropWhile isBlank := List.dropWhile_cons_of_pos hc
      have hshorter : (trimStart (c :: rest)).length ≤ rest.length := by
        rw [hstart]
        exact List.length_dropWhile_le isBlank rest
      have hend : (trim (c :: rest)).length ≤ (trimStart (c :: rest)).length :=
        (List.rdropWhile_prefix isBlank _).length_le
      rw [htrim, List.length_cons] at hend
      omega
    · rintro rfl
      simp [isComment] at hcomment

/-- Emptying literals leaves the first character of a text. -/
lemma exists_emptyLiterals_eq_cons (c : Char) (rest : List Char) :
    ∃ more, emptyLiterals (c :: rest) = c :: more := by
  rw [emptyLiterals]
  split
  · split
    · exact ⟨_, rfl⟩
    · exact ⟨_, rfl⟩
  · exact ⟨_, rfl⟩

/-- Something is left of a text of code when literals are emptied and comments are cut off. -/
lemma CodeText.code_ne_nil (line : CodeText) : code line.text ≠ [] := by
  obtain ⟨c, rest, htext, hblank, hsign⟩ := line.exists_eq_cons
  obtain ⟨more, hmore⟩ := exists_emptyLiterals_eq_cons c rest
  intro hnil
  rw [htext, code, hmore, trimEnd_eq_nil_iff] at hnil
  have hmem : c ∈ (c :: more).takeWhile (· != '#') := by simp [hsign]
  simp [hnil c hmem] at hblank

/-! ## Indentation -/

/-- A unit of indentation. -/
inductive IndentUnit where
  | tab
  | fourSpaces
  deriving DecidableEq

/-- The blanks that a unit of indentation stands for. -/
def IndentUnit.text : IndentUnit → List Char
  | .tab => ['\t']
  | .fourSpaces => [' ', ' ', ' ', ' ']

/-- The blanks that some units of indentation stand for. -/
def indent (units : List IndentUnit) : List Char := units.flatMap IndentUnit.text

/-- Indentation is blank. -/
lemma isBlank_of_mem_indent {units : List IndentUnit} {c : Char} (h : c ∈ indent units) :
    isBlank c = true := by
  obtain ⟨unit, -, hc⟩ := List.mem_flatMap.mp h
  have hall : unit.text.all isBlank = true := by cases unit <;> decide
  exact List.all_eq_true.mp hall c hc

/-- Each unit of indentation is equally wide, whichever way it is written. -/
lemma indentWidth_unit (unit : IndentUnit) (s : List Char) :
    indentWidth (unit.text ++ s) = indentUnit + indentWidth s := by
  cases unit with
  | tab => rfl
  | fourSpaces =>
    simp only [IndentUnit.text, List.cons_append, List.nil_append, indentWidth, indentUnit]
    omega

section Indented

variable (units : List IndentUnit) (line : CodeText)

/-- Trimming takes off the indentation of a line and leaves its code. -/
lemma trim_indent : trim (indent units ++ line.text) = line.text := by
  have hblank : isBlankText (indent units) = true :=
    List.all_eq_true.mpr fun _ => isBlank_of_mem_indent
  rw [trim_append_of_isBlankText hblank]
  exact line.trimmed

/-- An indented line of code is not blank. -/
lemma isBlankText_indent : isBlankText (indent units ++ line.text) = false := by
  rw [isBlankText, List.all_append]
  exact Bool.and_eq_false_imp.mpr fun _ => line.not_blank

/-- The width of an indented line is that of its units: its text begins with no blank.

**Proof sketch.** Induction on the units.  Each unit adds the width of one, however it is written,
and the first character of the text is no blank and so adds nothing. -/
lemma indentWidth_indent : indentWidth (indent units ++ line.text) = indentUnit * units.length := by
  induction units with
  | nil =>
    obtain ⟨c, rest, htext, hblank, -⟩ := line.exists_eq_cons
    have hspace : c ≠ ' ' := by
      rintro rfl
      exact absurd hblank (by decide)
    have htab : c ≠ '\t' := by
      rintro rfl
      exact absurd hblank (by decide)
    rw [indent, List.flatMap_nil, List.nil_append, htext]
    simp [indentWidth, hspace, htab]
  | cons unit rest ih =>
    have hcons : indent (unit :: rest) = unit.text ++ indent rest := List.flatMap_cons
    rw [hcons, List.append_assoc, indentWidth_unit, ih, List.length_cons,
      Nat.mul_succ, Nat.add_comm]

/-- The level of a line is the number of its units of indentation. -/
lemma indentLevel_indent : indentLevel (indent units ++ line.text) = units.length := by
  rw [indentLevel, indentWidth_indent]
  exact Nat.mul_div_cancel_left _ (by decide)

/-- **The code of an indented line** is that of its text, at the width of its units. -/
lemma codeLine?_indent :
    Body.codeLine? (indent units ++ line.text) =
      some ⟨indentUnit * units.length, code line.text⟩ := by
  have hcode : (code line.text).isEmpty = false := by simpa using line.code_ne_nil
  unfold Body.codeLine?
  rw [trim_indent, indentWidth_indent]
  simp [hcode]

end Indented

end ScriptAudit.Script
