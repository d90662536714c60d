import Mathlib.Data.List.Infix
import Mathlib.Tactic.Common
import ScriptAudit.Proofs.FreeNumbers
import ScriptAudit.Proofs.UntypedVariables

/-!
# Numbers in declarations

Numbers may stand freely where constants and enumerations are declared.  Such lines are recognised
twice: the check of names knows a declaration by its keyword, any blanks and a name; the check of
numbers looks for the keyword and one space.  Here the two are compared, on every line that declares
a constant or an enumeration.  They agree if the blank right behind the keyword is a space.  Behind
any other blank, a tab for instance, the declaration is not known as such by the check of numbers,
and its numbers are reported unless something else in the line exempts it.

## Main definitions

* `ScriptAudit.LineCheck.HoldsMark` — a line holds one of the marks that exempt it wherever they
  stand.

## Main results

* `ScriptAudit.LineCheck.isExempt_iff_of_declaredName?` — which declarations are exempt.
* `ScriptAudit.LineCheck.judge_magicNumber_declaration` — when the numbers of a declaration are not
  reported.
-/

set_option relaxedAutoImplicit false
set_option autoImplicit false

namespace ScriptAudit.LineCheck

open Text Script

/-- **The marks of exempt lines**, wherever they stand in the line. -/
def HoldsMark (text : List Char) : Prop :=
  "enum ".toList <:+: text ∨ "enum".toList ++ ['{'] <:+: text ∨ "@export".toList <:+: text

/-! ## Declarations and the exemption -/

/-- A line that declares a name begins with the keyword. -/
lemma keyword_prefix_of_declaredName? {kind : NamedKind} {text name : List Char}
    (h : declaredName? kind text = some name) : kind.keyword <+: text := by
  obtain ⟨found, hfound, -⟩ := Option.map_eq_some_iff.mp h
  obtain ⟨after, hafter, -⟩ := Option.bind_eq_some_iff.mp hfound
  obtain ⟨gap, -, rfl, -⟩ := (afterKeyword?_eq_some_iff _ _ _).mp hafter
  exact List.prefix_append _ _

/-- **Which declarations are exempt**: those with a space right behind the keyword, and those that
hold a mark elsewhere.

**Proof sketch.** The line begins with the keyword, so it is no comment.  The space behind `const`
is tested for at the beginning, and the one behind `enum` is itself one of the marks. -/
lemma isExempt_iff_of_declaredName? {kind : NamedKind}
    (hkind : kind = .constant ∨ kind = .enumeration)
    {text name : List Char} (h : declaredName? kind text = some name) :
    IsExempt text ↔ kind.keyword ++ [' '] <+: text ∨ HoldsMark text := by
  obtain ⟨rest, rfl⟩ := keyword_prefix_of_declaredName? h
  rcases hkind with rfl | rfl
  · have hkeyword : NamedKind.constant.keyword = 'c' :: "onst".toList := by decide +kernel
    have hsign : (NamedKind.constant.keyword ++ rest).head? ≠ some '#' := by simp [hkeyword]
    have hspace : "const ".toList = NamedKind.constant.keyword ++ [' '] := by decide +kernel
    rw [IsExempt, or_iff_right hsign, hspace, HoldsMark]
  · have hkeyword : NamedKind.enumeration.keyword = 'e' :: "num".toList := by decide +kernel
    have hsign : (NamedKind.enumeration.keyword ++ rest).head? ≠ some '#' := by simp [hkeyword]
    have hconst : ¬ "const ".toList <+: NamedKind.enumeration.keyword ++ rest := by simp [hkeyword]
    -- a space behind this keyword is one of the marks
    have hmark : NamedKind.enumeration.keyword ++ [' '] <+: NamedKind.enumeration.keyword ++ rest →
        HoldsMark (NamedKind.enumeration.keyword ++ rest) := fun hspace => .inl hspace.isInfix
    rw [IsExempt, or_iff_right hsign, or_iff_right hconst, or_iff_right_of_imp hmark, HoldsMark]

/-! ## What is reported -/

/-- Nothing is reported on a line if and only if it is exempt or none of its numbers needs a
name. -/
lemma judge_magicNumber_eq_none_iff (settings : Settings) (line : Line) :
    judge settings line .magicNumber = none ↔
      IsExempt line.text ∨ ∀ literal ∈ freeNumbers line.text, ¬ NeedsName settings literal := by
  rw [judge, judgeNumbers_eq, ← mayHoldNumbers_iff]
  split_ifs with hexempt
  · simp [hexempt]
  · rw [Option.map_eq_none_iff, find?_failsTest_eq_none_iff, or_iff_right hexempt]

/-- If no value is allowed, every number needs a name that does not stand right behind a quote. -/
lemma needsName_of_allowedNumbers_eq_nil {settings : Settings}
    (hsettings : settings.allowedNumbers = [])
    {text : List Char} {literal : NumberLiteral} (h : literal ∈ freeNumbers text) :
    NeedsName settings literal ↔ literal.before.any isQuote = false := by
  refine and_iff_left ?_
  obtain ⟨negative, n, htext⟩ := exists_numeral_of_mem_freeNumbers h
  refine ⟨negative, n, htext, fun allowed hmem => ?_⟩
  rw [hsettings] at hmem
  exact absurd hmem List.not_mem_nil

/-- **Numbers in declarations.**  On a line that declares a constant or an enumeration, no number is
reported exactly if a space stands right behind the keyword, or the line holds a mark, or none of
its numbers needs a name.  So nothing is ever reported, whatever the settings are, exactly if a
space stands there, or the line holds a mark, or all its numbers stand right behind quotes.

**Proof sketch.** The first part puts together what exempts a line and which numbers need a name.
For the second part, the settings that allow no number at all are the strictest ones: under them all
numbers need a name except those behind quotes. -/
theorem judge_magicNumber_declaration {kind : NamedKind}
    (hkind : kind = .constant ∨ kind = .enumeration)
    {line : Line} {name : List Char} (hname : declaredName? kind line.text = some name) :
    (∀ settings, judge settings line .magicNumber = none ↔
      kind.keyword ++ [' '] <+: line.text ∨ HoldsMark line.text ∨
        ∀ literal ∈ freeNumbers line.text, ¬ NeedsName settings literal) ∧
    ((∀ settings, judge settings line .magicNumber = none) ↔
      kind.keyword ++ [' '] <+: line.text ∨ HoldsMark line.text ∨
        ∀ literal ∈ freeNumbers line.text, literal.before.any isQuote = true) := by
  have hone (settings : Settings) : judge settings line .magicNumber = none ↔
      kind.keyword ++ [' '] <+: line.text ∨ HoldsMark line.text ∨
        ∀ literal ∈ freeNumbers line.text, ¬ NeedsName settings literal := by
    rw [judge_magicNumber_eq_none_iff, isExempt_iff_of_declaredName? hkind hname, or_assoc]
  refine ⟨hone, fun hnever => ?_, fun hexempt settings => (hone settings).mpr ?_⟩
  · -- the strictest settings allow no number at all
    refine ((hone { allowedNumbers := [] }).mp (hnever _)).imp_right
      (.imp_right fun hnone literal hmem => ?_)
    have hneeds := hnone literal hmem
    rwa [needsName_of_allowedNumbers_eq_nil rfl hmem, Bool.not_eq_false] at hneeds
  · refine hexempt.imp_right (.imp_right fun hquoted literal hmem hneeds => ?_)
    exact absurd (hquoted literal hmem) (by simp [hneeds.1])

/-- A constant with two spaces behind the keyword. -/
def spacedConstant : Line := ⟨1, "const  SPEED = 300".toList⟩

/-- Nothing is reported on this line under any settings, since a space stands behind its keyword. -/
theorem judge_magicNumber_declaration_spaced :
    declaredName? .constant spacedConstant.text = some "SPEED".toList ∧
      ∀ settings, judge settings spacedConstant .magicNumber = none := by
  have hname : declaredName? .constant spacedConstant.text = some "SPEED".toList := by
    decide +kernel
  have hspace : NamedKind.constant.keyword ++ [' '] <+: spacedConstant.text := by decide +kernel
  exact ⟨hname, (judge_magicNumber_declaration (.inl rfl) hname).2.mpr (.inl hspace)⟩

/-- What is reported if no value is allowed: the first number that does not stand right behind a
quote. -/
lemma judge_magicNumber_of_allowedNumbers_eq_nil {settings : Settings}
    (h : settings.allowedNumbers = []) (line : Line) :
    judge settings line .magicNumber =
      if mayHoldNumbers line.text then none
      else ((numberLiterals line.text).find? fun literal => !literal.before.any isQuote).map
        fun literal => ⟨.info, "Magic number " ++ String.ofList literal.text ++
          " (consider a named constant)"⟩ := by
  have hallowed (text : List Char) : isAllowedNumber settings text = false := by
    unfold isAllowedNumber
    split
    · rw [h, List.any_nil]
    · rfl
  simp [judge, judgeNumbers, hallowed]

/-- A constant with a tab behind the keyword. -/
def tabbedConstant : Line := ⟨1, "const\tSPEED = 300".toList⟩

/-- An enumeration with a tab behind the keyword. -/
def tabbedEnumeration : Line :=
  ⟨2, "enum\tState ".toList ++ '{' :: " IDLE = 5 ".toList ++ ['}']⟩

/-- A tab behind the keyword makes a declaration, but its numbers are reported. -/
theorem judge_magicNumber_tabbed :
    declaredName? .constant tabbedConstant.text = some "SPEED".toList ∧
      judge { allowedNumbers := [] } tabbedConstant .magicNumber =
        some ⟨.info, "Magic number 300 (consider a named constant)"⟩ ∧
      declaredName? .enumeration tabbedEnumeration.text = some "State".toList ∧
      judge { allowedNumbers := [] } tabbedEnumeration .magicNumber =
        some ⟨.info, "Magic number 5 (consider a named constant)"⟩ := by
  rw [judge_magicNumber_of_allowedNumbers_eq_nil rfl,
    judge_magicNumber_of_allowedNumbers_eq_nil rfl]
  decide +kernel

end ScriptAudit.LineCheck
