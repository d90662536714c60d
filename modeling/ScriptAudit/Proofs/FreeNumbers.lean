import Mathlib.Tactic.Common
import ScriptAudit.Checks.Line
import ScriptAudit.Proofs.Numerals
import ScriptAudit.Proofs.Stretches

/-!
# Free-standing numbers

The check for unexplained numbers looks at the numbers of a line that stand on their own.  Which
numbers those are can be said without a search: word characters and points that stand next to each
other belong together, and a number is free if it makes up the whole of such a stretch.  A minus
sign before a stretch belongs to the number, unless something is glued to the sign from the left, as
in a difference without spaces.

## Main definitions

* `ScriptAudit.Script.freeNumbers` — the free-standing numbers of a text.
* `ScriptAudit.LineCheck.IsExempt` — the lines in which numbers may stand freely.
* `ScriptAudit.LineCheck.NeedsName` — when a number would need a name.

## Main results

* `ScriptAudit.Script.numberLiterals_eq_freeNumbers` — the search finds the free-standing numbers.
* `ScriptAudit.LineCheck.judgeNumbers_first` — the check reports the first one that needs a name.
-/

set_option relaxedAutoImplicit false
set_option autoImplicit false

namespace ScriptAudit.Script

open Text

/-! ## Numbers and their signs -/

/-- Whether a text ends with the sign of a number that may follow: a minus sign that nothing is
glued to. -/
def endsWithSign (before : List Char) : Bool :=
  before.getLast? == some '-' && !before.dropLast.getLast?.any isNumberPart

/-- What stands before a number and its sign. -/
def beforeSign (before : List Char) : List Char :=
  if endsWithSign before then before.dropLast else before

/-- The number literal that a stretch makes up, together with its sign. -/
def literalOf (s : Stretch) : NumberLiteral :=
  ⟨(beforeSign s.before).getLast?, signText (endsWithSign s.before) ++ s.text⟩

/-- **The free-standing numbers of a text**: its maximal runs of word characters and points that are
numerals. -/
def freeNumbers (text : List Char) : List NumberLiteral :=
  ((stretches isNumberPart text).filter (IsNumeral ·.text)).map literalOf

/-- A minus sign at the end is the sign of a number unless something is glued to it. -/
lemma endsWithSign_concat_minus (before : List Char) :
    endsWithSign (before ++ ['-']) = !before.getLast?.any isNumberPart := by
  simp [endsWithSign]

/-- A text that does not end with a minus sign does not end with a sign. -/
lemma endsWithSign_of_getLast?_ne {before : List Char} (h : before.getLast? ≠ some '-') :
    endsWithSign before = false := by
  simp [endsWithSign, h]

/-- A text that ends with a sign is divided before it. -/
lemma exists_of_endsWithSign {before : List Char} (h : endsWithSign before = true) :
    ∃ outer, before = outer ++ ['-'] ∧ outer.getLast?.any isNumberPart = false := by
  rw [endsWithSign, Bool.and_eq_true, beq_iff_eq, Bool.not_eq_true'] at h
  obtain ⟨hminus, hfree⟩ := h
  exact ⟨before.dropLast, (List.dropLast_append_getLast? '-' hminus).symm, hfree⟩

/-- Nothing is glued to a number and its sign if nothing is glued to the number. -/
lemma any_getLast?_beforeSign {before : List Char} (h : before.getLast?.any isNumberPart = false) :
    (beforeSign before).getLast?.any isNumberPart = false := by
  unfold beforeSign
  split
  · next hsign =>
    obtain ⟨outer, rfl, houter⟩ := exists_of_endsWithSign hsign
    rwa [List.dropLast_concat]
  · exact h

/-- A minus sign is no part of a number. -/
lemma head?_ne_minus_of_isNumberPart {text : List Char} (h : text.head?.any isNumberPart = true) :
    text.head? ≠ some '-' := by
  intro heq
  rw [heq] at h
  exact absurd h (by decide)

/-! ## What the recogniser finds at a stretch -/

/-- There is no literal right behind a character that may be part of one. -/
lemma numberLiteral_of_glued {c : Char} (hc : isNumberPart c = true) (text : List Char) :
    numberLiteral (some c) text = none := by
  simp [numberLiteral, hc]

/-- There is no literal where no stretch begins, with or without a sign. -/
lemma numberLiteral_of_not_isNumberPart (before : Option Char) {text : List Char}
    (h : (takeSign text).2.head?.any isNumberPart = false) : numberLiteral before text = none := by
  have hwhole : ([] ++ (takeSign text).2).takeWhile isDigit = [] :=
    takeWhile_run rfl (any_isDigit_of_any_isNumberPart h)
  rw [List.nil_append] at hwhole
  simp [numberLiteral, hwhole]

section Stretch

variable {run after : List Char} (hne : run ≠ []) (hrun : run.all isNumberPart = true)
  (hafter : after.head?.any isNumberPart = false)
include hne hrun hafter

/-- **At a stretch** the recogniser finds the whole stretch, with its sign, or nothing.

**Proof sketch.** If the stretch is a numeral, the recogniser finds it by
`numberLiteral_eq_some_iff`.  Whatever it finds is a sign, a numeral and something that does not go
on with it; the same text is divided into the sign, the stretch and the rest, and both divisions
agree. -/
lemma numberLiteral_stretch {before : Option Char} (hbefore : before.any isNumberPart = false)
    (negative : Bool) :
    numberLiteral before (signText negative ++ (run ++ after)) =
      (if IsNumeral run then some ⟨before, signText negative ++ run⟩ else none).map (·, after) := by
  split_ifs with hnumeral
  · obtain ⟨n, rfl⟩ := hnumeral
    exact (numberLiteral_eq_some_iff _ _ _ _).mpr ⟨hbefore, hafter, negative, n, rfl, rfl⟩
  · by_contra hfound
    obtain ⟨⟨literal, rest⟩, hsome⟩ := Option.ne_none_iff_exists'.mp hfound
    obtain ⟨-, hrest, negative', n, htext, -⟩ := (numberLiteral_eq_some_iff _ _ _ _).mp hsome
    -- both divisions of the text take off the sign and then a whole stretch
    have hunsigned := congrArg takeSign htext
    rw [takeSign_signText negative
      (head?_ne_minus_of_isNumberPart (any_head?_append hne hrun after)),
      takeSign_signText negative' (n.head?_ne_minus rest)] at hunsigned
    have hsame := congrArg (List.takeWhile isNumberPart) (Prod.mk.inj hunsigned).2
    rw [takeWhile_run hrun hafter, takeWhile_run n.all_isNumberPart_text hrest] at hsame
    exact hnumeral ⟨n, hsame.symm⟩

/-- The search finds a stretch if it is a numeral, and goes on behind it.

**Proof sketch.** Without a sign the search passes the stretch as a whole.  With a sign and a
numeral both are found together.  With a sign before something that is no numeral the sign is passed
over, and the stretch is not found without it either. -/
lemma findFrom_numberLiteral {before : Option Char} (hbefore : before.any isNumberPart = false)
    (negative : Bool) :
    findFrom numberLiteral 0 before (signText negative ++ (run ++ after)) =
      (if IsNumeral run then [⟨before, signText negative ++ run⟩] else []) ++
        findFrom numberLiteral 0 run.getLast? after := by
  have hblocked : ∀ c text, isNumberPart c = true → numberLiteral (some c) text = none :=
    fun c text hc => numberLiteral_of_glued hc text
  have hfind := numberLiteral_stretch hne hrun hafter hbefore negative
  cases negative with
  | false =>
    refine (findFrom_stretch hblocked hne hrun hfind).trans ?_
    split_ifs <;> rfl
  | true =>
    split_ifs at hfind ⊢ with hnumeral
    · have hsigned : numberLiteral before ('-' :: run ++ after) =
          some (⟨before, '-' :: run⟩, after) := hfind
      refine (findFrom_of_eq_some hsigned).trans ?_
      rw [List.getLast?_cons_of_ne_nil hne]
      rfl
    · -- the sign alone is passed over, and the stretch is not a numeral without it either
      have hfree : (some '-').any isNumberPart = false := by decide
      have hunsigned := numberLiteral_stretch hne hrun hafter hfree false
      rw [if_neg hnumeral] at hunsigned
      exact (findFrom_of_eq_none hfind).trans (findFrom_stretch hblocked hne hrun hunsigned)

end Stretch

/-! ## The search along the stretches -/

/-- What the search finds in the rest of a text, when it stands before the sign of a number that
may follow. -/
def literalsFrom (before rest : List Char) : List NumberLiteral :=
  findFrom numberLiteral 0 (beforeSign before).getLast? (signText (endsWithSign before) ++ rest)

/-- Without a sign before it, the search begins at the rest of the text. -/
lemma literalsFrom_of_not_sign {before : List Char} (h : endsWithSign before = false)
    (rest : List Char) :
    literalsFrom before rest = findFrom numberLiteral 0 before.getLast? rest := by
  simp [literalsFrom, beforeSign, h, signText]

/-- With a sign before it, the search begins at the sign. -/
lemma literalsFrom_concat_minus {before : List Char} (h : before.getLast?.any isNumberPart = false)
    (rest : List Char) :
    literalsFrom (before ++ ['-']) rest =
      findFrom numberLiteral 0 before.getLast? ('-' :: rest) := by
  simp [literalsFrom, beforeSign, endsWithSign_concat_minus, h, signText]

/-- A sign makes no difference if no stretch follows it. -/
lemma literalsFrom_of_not_isNumberPart (before : List Char) {rest : List Char}
    (h : rest.head?.any isNumberPart = false) :
    literalsFrom before rest = findFrom numberLiteral 0 before.getLast? rest := by
  cases hsign : endsWithSign before with
  | false => exact literalsFrom_of_not_sign hsign rest
  | true =>
    obtain ⟨outer, rfl, houter⟩ := exists_of_endsWithSign hsign
    have hnone : numberLiteral outer.getLast? ('-' :: rest) = none :=
      numberLiteral_of_not_isNumberPart _ h
    rw [literalsFrom_concat_minus houter, List.getLast?_concat, findFrom_of_eq_none hnone]

/-- A character that is no part of a number is passed over.

**Proof sketch.** A minus sign is either the sign of what follows, and then the search begins at it,
or glued to what stands before.  Any other character ends a sign that may stand before it. -/
lemma literalsFrom_cons {c : Char} (hc : isNumberPart c = false) (before rest : List Char) :
    literalsFrom before (c :: rest) = literalsFrom (before ++ [c]) rest := by
  rw [literalsFrom_of_not_isNumberPart before (by simpa using hc)]
  by_cases hminus : c = '-'
  · subst hminus
    cases hbefore : before.getLast?.any isNumberPart with
    | false => rw [literalsFrom_concat_minus hbefore]
    | true =>
      -- a glued minus sign is no sign, and nothing is found at it
      obtain ⟨d, hlast, hd⟩ := (Option.any_eq_true _ _).mp hbefore
      have hsign : endsWithSign (before ++ ['-']) = false := by
        rw [endsWithSign_concat_minus, hbefore]; rfl
      rw [literalsFrom_of_not_sign hsign, List.getLast?_concat, hlast,
        findFrom_of_eq_none (numberLiteral_of_glued hd _)]
  · have htake : takeSign (c :: rest) = ([], c :: rest) :=
      takeSign_signText false (by simpa using hminus)
    have hnone : numberLiteral before.getLast? (c :: rest) = none :=
      numberLiteral_of_not_isNumberPart _ (by simpa [htake] using hc)
    have hsign : endsWithSign (before ++ [c]) = false :=
      endsWithSign_of_getLast?_ne (by simpa using hminus)
    rw [findFrom_of_eq_none hnone, literalsFrom_of_not_sign hsign, List.getLast?_concat]

/-- **One stretch at a time**: a stretch gives a literal if it is a numeral, and the search goes on
behind it. -/
lemma literalsFrom_append {before run after : List Char} (hne : run ≠ [])
    (hrun : run.all isNumberPart = true)
    (hbefore : before.getLast?.any isNumberPart = false)
    (hafter : after.head?.any isNumberPart = false) :
    literalsFrom before (run ++ after) =
      (if IsNumeral run then [literalOf ⟨before, run, after⟩] else []) ++
        literalsFrom (before ++ run) after := by
  rw [literalsFrom, findFrom_numberLiteral hne hrun hafter (any_getLast?_beforeSign hbefore),
    literalsFrom_of_not_isNumberPart _ hafter, List.getLast?_append_of_ne_nil before hne]
  rfl

/-- **The search finds the free-standing numbers**, from left to right.

**Proof sketch.** Induction along the stretches of word characters and points.  A minus sign is
passed over only when the next character is known, so the search is followed from before the
sign. -/
theorem numberLiterals_eq_freeNumbers (text : List Char) :
    numberLiterals text = freeNumbers text := by
  have hsearch : ∀ before rest,
      before.getLast?.any isNumberPart = false ∨ rest.head?.any isNumberPart = false →
        literalsFrom before rest =
          ((stretchesFrom isNumberPart before rest).filter (IsNumeral ·.text)).map literalOf := by
    refine stretch_induction ?_ ?_ ?_
    · intro before
      rw [literalsFrom_of_not_isNumberPart before rfl]
      rfl
    · intro before c rest hc ih
      rw [literalsFrom_cons hc, stretchesFrom_cons_of_not_inClass hc, ih]
    · intro before run after hne hrun hbefore hafter ih
      rw [literalsFrom_append hne hrun hbefore hafter, stretchesFrom_append hne hrun hbefore hafter,
        List.filter_cons, ih]
      by_cases hnumeral : IsNumeral run <;> simp [hnumeral]
  exact hsearch [] text (Or.inl rfl)

/-- Neither versions nor names hold free-standing numbers; of several signs only the last belongs to
a number, and a difference has none. -/
example : (numberLiterals "v2 1.2.3 --5 7-1 x.4 '8".toList).map (·.text) =
    ["-5", "7", "1", "8"].map String.toList := by
  decide +kernel

end ScriptAudit.Script

namespace ScriptAudit.LineCheck

open Text Script

/-! ## Numbers that need a name -/

/-- **The lines in which numbers may stand freely**: comments, constants, enumerations and exported
properties. -/
def IsExempt (text : List Char) : Prop :=
  text.head? = some '#' ∨ "const ".toList <+: text ∨ "enum ".toList <:+: text ∨
    "enum".toList ++ ['{'] <:+: text ∨ "@export".toList <:+: text

/-- The test for exempt lines tells whether a line is exempt. -/
lemma mayHoldNumbers_iff (text : List Char) : mayHoldNumbers text = true ↔ IsExempt text := by
  simp only [mayHoldNumbers, isComment, Bool.or_eq_true, beq_iff_eq,
    List.isPrefixOf_iff_prefix, occursIn_iff, IsExempt, or_assoc]

/-- **A number that needs a name**: it does not stand right behind a quote, and its value is none of
the allowed ones. -/
def NeedsName (settings : Settings) (literal : NumberLiteral) : Prop :=
  literal.before.any isQuote = false ∧
    ∃ negative, ∃ n : Numeral, literal.text = signText negative ++ n.text ∧
    ∀ allowed ∈ settings.allowedNumbers, (allowed == n.value negative) = false

/-- A numeral with its sign is allowed if its value is. -/
lemma isAllowedNumber_numeral (settings : Settings) (negative : Bool) (n : Numeral) :
    isAllowedNumber settings (signText negative ++ n.text) =
      settings.allowedNumbers.any (· == n.value negative) := by
  rw [isAllowedNumber, double?_numeral]

/-- A free-standing number is a numeral with its sign. -/
lemma exists_numeral_of_mem_freeNumbers {text : List Char} {literal : NumberLiteral}
    (h : literal ∈ freeNumbers text) :
    ∃ negative, ∃ n : Numeral, literal.text = signText negative ++ n.text := by
  obtain ⟨s, hs, rfl⟩ := List.mem_map.mp h
  obtain ⟨n, hn⟩ := of_decide_eq_true (List.mem_filter.mp hs).2
  exact ⟨endsWithSign s.before, n, by rw [hn]; rfl⟩

/-- The test that the check applies to a literal. -/
def failsTest (settings : Settings) (literal : NumberLiteral) : Bool :=
  !literal.before.any isQuote && !isAllowedNumber settings literal.text

/-- A free-standing number fails the test of the check if and only if it needs a name.

**Proof sketch.** A free number is a sign and a numeral, so its value is read, and it is compared
with the values that are allowed. -/
lemma failsTest_iff {settings : Settings} {text : List Char} {literal : NumberLiteral}
    (h : literal ∈ freeNumbers text) :
    failsTest settings literal = true ↔ NeedsName settings literal := by
  rw [failsTest, Bool.and_eq_true, Bool.not_eq_true', Bool.not_eq_true', NeedsName]
  refine and_congr_right fun _ => ⟨fun hallowed => ?_, ?_⟩
  · obtain ⟨negative, n, htext⟩ := exists_numeral_of_mem_freeNumbers h
    rw [htext, isAllowedNumber_numeral, List.any_eq_false] at hallowed
    exact ⟨negative, n, htext, fun allowed hmem => by simpa using hallowed allowed hmem⟩
  · rintro ⟨negative, n, htext, hnone⟩
    rw [htext, isAllowedNumber_numeral, List.any_eq_false]
    exact fun allowed hmem => by simpa using hnone allowed hmem

/-- The first number that fails the test is the first one that needs a name.

**Proof sketch.** On the free numbers of the text, failing the test and needing a name are the same,
by `failsTest_iff`. -/
lemma find?_failsTest_eq_some_iff (settings : Settings) (text : List Char)
    (literal : NumberLiteral) :
    (freeNumbers text).find? (failsTest settings) = some literal ↔
      ∃ earlier later, freeNumbers text = earlier ++ literal :: later ∧ NeedsName settings literal ∧
        ∀ other ∈ earlier, ¬ NeedsName settings other := by
  have hiff {earlier later : List NumberLiteral}
      (hsplit : freeNumbers text = earlier ++ literal :: later) :
      (failsTest settings literal = true ∧ ∀ other ∈ earlier, (!failsTest settings other) = true) ↔
        NeedsName settings literal ∧ ∀ other ∈ earlier, ¬ NeedsName settings other := by
    have hmem : literal ∈ freeNumbers text := by simp [hsplit]
    refine and_congr (failsTest_iff hmem) (forall₂_congr fun other hother => ?_)
    have hmem' : other ∈ freeNumbers text := by simp [hsplit, hother]
    rw [← failsTest_iff hmem', Bool.not_eq_true', Bool.not_eq_true]
  rw [List.find?_eq_some_iff_append]
  constructor
  · rintro ⟨hfails, earlier, later, hsplit, hearlier⟩
    exact ⟨earlier, later, hsplit, (hiff hsplit).mp ⟨hfails, hearlier⟩⟩
  · rintro ⟨earlier, later, hsplit, hneeds⟩
    obtain ⟨hfails, hearlier⟩ := (hiff hsplit).mpr hneeds
    exact ⟨hfails, earlier, later, hsplit, hearlier⟩

/-- No number fails the test if and only if none needs a name. -/
lemma find?_failsTest_eq_none_iff (settings : Settings) (text : List Char) :
    (freeNumbers text).find? (failsTest settings) = none ↔
      ∀ literal ∈ freeNumbers text, ¬ NeedsName settings literal := by
  rw [List.find?_eq_none]
  exact forall₂_congr fun literal hmem => not_congr (failsTest_iff hmem)

/-- The check of numbers looks for the first free-standing number that fails its test. -/
lemma judgeNumbers_eq (settings : Settings) (text : List Char) :
    judgeNumbers settings text =
      if mayHoldNumbers text then none
      else ((freeNumbers text).find? (failsTest settings)).map fun literal =>
        ⟨.info, "Magic number " ++ String.ofList literal.text ++
          " (consider a named constant)"⟩ := by
  rw [← numberLiterals_eq_freeNumbers]
  rfl

/-- **The first number that needs a name is reported.**  The numbers that the check looks at are the
free-standing numbers of the line, from left to right.  On a line that is not exempt it reports the
first one that needs a name, and it reports nothing only if there is none.

**Proof sketch.** The check goes through the literals that the search finds, and these are the free
numbers.  What it reports is the first one that fails the test, which is the first one that needs a
name. -/
theorem judgeNumbers_first (settings : Settings) (text : List Char) :
    numberLiterals text = freeNumbers text ∧
      (∀ finding, judgeNumbers settings text = some finding ↔
        ¬ IsExempt text ∧ ∃ earlier literal later, freeNumbers text = earlier ++ literal :: later ∧
          NeedsName settings literal ∧ (∀ other ∈ earlier, ¬ NeedsName settings other) ∧
          finding =
            ⟨.info, "Magic number " ++ String.ofList literal.text ++
              " (consider a named constant)"⟩) ∧
      (judgeNumbers settings text = none ↔
        IsExempt text ∨ ∀ literal ∈ freeNumbers text, ¬ NeedsName settings literal) := by
  refine ⟨numberLiterals_eq_freeNumbers text, fun finding => ?_, ?_⟩
  · rw [judgeNumbers_eq, ← mayHoldNumbers_iff]
    split_ifs with hexempt
    · simp [hexempt]
    · simp only [Option.map_eq_some_iff, find?_failsTest_eq_some_iff]
      constructor
      · rintro ⟨literal, ⟨earlier, later, hsplit, hneeds, hearlier⟩, rfl⟩
        exact ⟨hexempt, earlier, literal, later, hsplit, hneeds, hearlier, rfl⟩
      · rintro ⟨-, earlier, literal, later, hsplit, hneeds, hearlier, rfl⟩
        exact ⟨literal, ⟨earlier, later, hsplit, hneeds, hearlier⟩, rfl⟩
  · rw [judgeNumbers_eq, ← mayHoldNumbers_iff]
    split_ifs with hexempt
    · simp [hexempt]
    · rw [Option.map_eq_none_iff, find?_failsTest_eq_none_iff, or_iff_right hexempt]

end ScriptAudit.LineCheck
