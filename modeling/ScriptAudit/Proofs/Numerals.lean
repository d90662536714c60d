import Mathlib.Data.List.TakeWhile
import Mathlib.Tactic.Common
import ScriptAudit.Number.Reading
import ScriptAudit.Proofs.Stretches
import ScriptAudit.Script.NumberLiteral

/-!
# Numerals

A numeral is a row of decimal digits, perhaps with a point and another row of digits behind it.  The
recogniser of number literals finds numerals, with or without a minus sign, that nothing else is
glued to; and every literal that it finds can be read as a number, whatever scripts its digits come
from.

## Main definitions

* `ScriptAudit.Script.Numeral`, `ScriptAudit.Script.IsNumeral` — numerals, and the texts that are
  numerals.
* `ScriptAudit.Script.Numeral.value` — the double that a numeral stands for.

## Main results

* `ScriptAudit.Script.numberLiteral_eq_some_iff` — what the recogniser of number literals finds.
* `ScriptAudit.Script.double?_numeral` — a numeral with its sign can be read as a double.
-/

set_option relaxedAutoImplicit false
set_option autoImplicit false

namespace ScriptAudit.Script

open Text

/-! ## Digits -/

/-- A digit belongs to the ten digits of some script.

**Proof sketch.** Induction on the starts.  The search ends at the first run that the number falls
into, or that begins behind it. -/
lemma exists_start_of_offsetInRun? {n : Nat} {starts : List Nat}
    (h : (offsetInRun? n starts).isSome = true) :
    ∃ start ∈ starts, start ≤ n ∧ n ≤ start + 9 := by
  induction starts with
  | nil => simp [offsetInRun?] at h
  | cons start rest ih =>
    rw [offsetInRun?] at h
    by_cases hbelow : n < start
    · simp [hbelow] at h
    · rw [if_neg hbelow] at h
      by_cases hwithin : n < start + 10
      · exact ⟨start, List.mem_cons_self, by omega, by omega⟩
      · rw [if_neg hwithin] at h
        obtain ⟨later, hlater, hbounds⟩ := ih h
        exact ⟨later, List.mem_cons_of_mem start hlater, hbounds⟩

/-- Whether the digits of each script lie in one range of a table.  The zeros and the ranges stand
in increasing order, so both lists are gone through once. -/
def holdsDigits : List (Nat × Nat) → (zeros : List Nat) → Bool
  | [], zeros => zeros.isEmpty
  | (lo, hi) :: rest, zeros =>
    zeros.head?.all (lo ≤ ·) && holdsDigits rest (zeros.dropWhile (· + 9 ≤ hi))

/-- **Proof sketch.** Induction on the table.  All zeros that are left lie above the lower end of
the first range, so no digit is given up there; those whose digits the first range does not hold are
left to the other ranges. -/
lemma inRanges_of_holdsDigits {table : List (Nat × Nat)} {zeros : List Nat}
    (hsorted : zeros.Pairwise (· ≤ ·))
    (h : holdsDigits table zeros = true) {start n : Nat} (hstart : start ∈ zeros)
    (hlower : start ≤ n) (hupper : n ≤ start + 9) : inRanges n table = true := by
  induction table generalizing zeros with
  | nil =>
    rw [holdsDigits, List.isEmpty_iff] at h
    simp [h] at hstart
  | cons range rest ih =>
    obtain ⟨lo, hi⟩ := range
    rw [holdsDigits, Bool.and_eq_true] at h
    have hlo : lo ≤ start := by
      cases zeros with
      | nil => simp at hstart
      | cons first more =>
        have hfirst : lo ≤ first := by simpa using h.1
        rcases List.mem_cons.mp hstart with rfl | hmore
        · exact hfirst
        · exact hfirst.trans (List.rel_of_pairwise_cons hsorted hmore)
    rw [inRanges, if_neg (by omega), Bool.or_eq_true, decide_eq_true_eq]
    rw [← List.takeWhile_append_dropWhile (p := (· + 9 ≤ hi)) (l := zeros),
      List.mem_append] at hstart
    rcases hstart with htaken | hleft
    · have hhi : start + 9 ≤ hi := by simpa using List.mem_takeWhile_imp htaken
      exact Or.inl (by omega)
    · exact Or.inr (ih (hsorted.sublist (List.dropWhile_sublist _)) h.2 hleft)

/-- Digits are parts of numbers. -/
lemma isNumberPart_of_isDigit {c : Char} (h : isDigit c = true) : isNumberPart c = true := by
  obtain ⟨start, hstart, hlower, hupper⟩ := exists_start_of_offsetInRun? h
  have hword : isWordChar c = true :=
    inRanges_of_holdsDigits (by decide +kernel) (by decide +kernel) hstart hlower hupper
  rw [isNumberPart, hword, Bool.true_or]

/-- Digits are not blank. -/
lemma isBlank_of_isDigit {c : Char} (h : isDigit c = true) : isBlank c = false := by
  have hapart : zeroDigits.all (fun start => blankRanges.all fun range =>
      start + 9 < range.1 || range.2 < start) = true := by decide +kernel
  obtain ⟨start, hstart, hlower, hupper⟩ := exists_start_of_offsetInRun? h
  by_contra hblank
  rw [Bool.not_eq_false] at hblank
  obtain ⟨range, hrange, hbounds⟩ := exists_range_of_inRanges hblank
  have hside := List.all_eq_true.mp (List.all_eq_true.mp hapart start hstart) range hrange
  simp only [Bool.or_eq_true, decide_eq_true_eq] at hside
  omega

/-! ## Numerals and their texts -/

/-- At least one digit, and nothing else. -/
def isDigits (s : List Char) : Bool := !s.isEmpty && s.all isDigit

/-- **A numeral**: digits, and perhaps further digits behind a point. -/
structure Numeral where
  whole : List Char
  decimals : Option (List Char)
  whole_digits : isDigits whole = true
  decimals_digits : decimals.all isDigits = true

/-- The text of a fraction: nothing, or a point and digits. -/
def fractionText : (decimals : Option (List Char)) → List Char
  | none => []
  | some digits => '.' :: digits

/-- The text of a numeral. -/
def Numeral.text (n : Numeral) : List Char := n.whole ++ fractionText n.decimals

/-- The texts that are numerals. -/
def IsNumeral (s : List Char) : Prop := ∃ n : Numeral, n.text = s

/-- Whether a text is a numeral: its part before the first point and, if there is a point, the part
behind it are digits. -/
def isNumeral (s : List Char) : Bool :=
  isDigits (s.takeWhile (· != '.')) &&
    match s.dropWhile (· != '.') with
    | [] => true
    | _ :: decimals => isDigits decimals

/-- A run of digits is made of digits. -/
lemma all_of_isDigits {s : List Char} (h : isDigits s = true) : s.all isDigit = true := by
  rw [isDigits, Bool.and_eq_true] at h
  exact h.2

/-- A run of digits is not empty. -/
lemma ne_nil_of_isDigits {s : List Char} (h : isDigits s = true) : s ≠ [] := by
  rintro rfl
  simp [isDigits] at h

/-- The test for numerals tells whether a text is one.

**Proof sketch.** Cut the text at its first point.  What stands before it are the digits of the
whole part, and what stands behind it, if there is a point, are the decimals.  The whole part of a
numeral has no point, so cutting its text gives its parts back. -/
lemma isNumeral_iff (s : List Char) : isNumeral s = true ↔ IsNumeral s := by
  constructor
  · intro h
    rw [isNumeral, Bool.and_eq_true] at h
    obtain ⟨hwhole, hrest⟩ := h
    have hsplit := List.takeWhile_append_dropWhile (p := (· != '.')) (l := s)
    cases hdrop : s.dropWhile (· != '.') with
    | nil =>
      rw [hdrop] at hsplit
      exact ⟨⟨_, none, hwhole, rfl⟩, hsplit⟩
    | cons c decimals =>
      have hpoint : ((c :: decimals).head?.any (· != '.')) = false := by
        rw [← hdrop]
        exact any_head?_dropWhile s
      obtain rfl : c = '.' := by simpa using hpoint
      rw [hdrop] at hrest hsplit
      exact ⟨⟨_, some decimals, hwhole, hrest⟩, hsplit⟩
  · rintro ⟨n, rfl⟩
    have hwhole : n.whole.all (· != '.') = true := by
      rw [List.all_eq_true]
      intro c hc
      rw [bne_iff_ne]
      rintro rfl
      exact absurd (List.all_eq_true.mp (all_of_isDigits n.whole_digits) '.' hc) (by decide)
    have hfraction : (fractionText n.decimals).head?.any (· != '.') = false := by
      cases n.decimals <;> rfl
    rw [isNumeral, Numeral.text, takeWhile_run hwhole hfraction, dropWhile_run hwhole hfraction,
      n.whole_digits, Bool.true_and]
    have hdecimals := n.decimals_digits
    cases hn : n.decimals with
    | none => rfl
    | some digits => rwa [hn] at hdecimals

instance : DecidablePred IsNumeral := fun s => decidable_of_iff _ (isNumeral_iff s)

/-! ## The recogniser of number literals -/

/-- The text of a sign: a minus sign, or nothing. -/
def signText (negative : Bool) : List Char := if negative then ['-'] else []

/-- Taking off a sign divides a text into the sign and the rest. -/
lemma exists_takeSign (text : List Char) :
    ∃ negative unsigned, takeSign text = (signText negative, unsigned) ∧
      text = signText negative ++ unsigned := by
  unfold takeSign
  split
  · next unsigned => exact ⟨true, unsigned, rfl, rfl⟩
  · exact ⟨false, text, rfl, rfl⟩

/-- A sign before a text that does not begin with one is taken off. -/
lemma takeSign_signText (negative : Bool) {unsigned : List Char} (h : unsigned.head? ≠ some '-') :
    takeSign (signText negative ++ unsigned) = (signText negative, unsigned) := by
  cases negative with
  | true => rfl
  | false =>
    unfold takeSign
    split
    · next rest heq =>
      obtain rfl : unsigned = '-' :: rest := heq
      exact absurd rfl h
    · rfl

/-- Taking off a fraction divides a text into the fraction, if there is one, and the rest.

**Proof sketch.** By whether the text begins with a point, and by whether digits follow it.  A point
without digits is left where it is. -/
lemma exists_takeFraction (text : List Char) :
    ∃ decimals rest, decimals.all isDigits = true ∧
      takeFraction text = (fractionText decimals, rest) ∧
      text = fractionText decimals ++ rest := by
  unfold takeFraction
  split
  · next rest =>
    cases hempty : (rest.takeWhile isDigit).isEmpty with
    | true => exact ⟨none, '.' :: rest, rfl, by simp [hempty, fractionText], rfl⟩
    | false =>
      refine ⟨some (rest.takeWhile isDigit), rest.dropWhile isDigit,
        ?_, by simp [hempty, fractionText], ?_⟩
      · simp [isDigits, hempty]
      · simp [fractionText]
  · exact ⟨none, text, rfl, rfl, rfl⟩

section Rest

variable {rest : List Char} (hrest : rest.head?.any isNumberPart = false)
include hrest

/-- Where no part of a number follows, no digit does. -/
lemma any_isDigit_of_any_isNumberPart : rest.head?.any isDigit = false := by
  cases rest with
  | nil => rfl
  | cons c more =>
    have hc : isNumberPart c = false := hrest
    by_contra hdigit
    simp [isNumberPart_of_isDigit (by simpa using hdigit)] at hc

/-- A fraction is taken off whole if no part of a number follows.

**Proof sketch.** Without decimals the rest does not begin with a point, which would be a part of a
number.  With decimals the digits are taken up to the first character that is none, and that is
where the rest begins. -/
lemma takeFraction_fractionText {decimals : Option (List Char)} (h : decimals.all isDigits = true) :
    takeFraction (fractionText decimals ++ rest) = (fractionText decimals, rest) := by
  cases decimals with
  | none =>
    unfold takeFraction
    split
    · next more heq =>
      obtain rfl : rest = '.' :: more := heq
      exact absurd hrest (by simp [isNumberPart])
    · rfl
  | some digits =>
    have hdigits : isDigits digits = true := h
    have hend := any_isDigit_of_any_isNumberPart hrest
    have hne : digits.isEmpty = false := by simpa using ne_nil_of_isDigits hdigits
    simp only [fractionText, List.cons_append, takeFraction,
      takeWhile_run (all_of_isDigits hdigits) hend,
      dropWhile_run (all_of_isDigits hdigits) hend, hne]
    rfl

end Rest

/-- A numeral begins with a digit. -/
lemma Numeral.exists_text_eq_cons (n : Numeral) :
    ∃ c rest, n.text = c :: rest ∧ isDigit c = true := by
  obtain ⟨c, rest, hwhole⟩ := List.exists_cons_of_ne_nil (ne_nil_of_isDigits n.whole_digits)
  refine ⟨c, rest ++ fractionText n.decimals, by rw [text, hwhole, List.cons_append], ?_⟩
  exact List.all_eq_true.mp (all_of_isDigits n.whole_digits) c (by simp [hwhole])

/-- A numeral does not begin with a sign. -/
lemma Numeral.head?_ne_minus (n : Numeral) (rest : List Char) :
    (n.text ++ rest).head? ≠ some '-' := by
  obtain ⟨c, more, htext, hc⟩ := n.exists_text_eq_cons
  rw [htext, List.cons_append, List.head?_cons]
  intro heq
  obtain rfl := Option.some.inj heq
  exact absurd hc (by decide)

/-- **What is recognised as a number literal**: a numeral, perhaps with a minus sign, that nothing
on either side is glued to.

**Proof sketch.** The recogniser takes off a sign, digits and a fraction, each as far as it goes,
and then looks at both sides.  What it has taken off is a sign and a numeral.  Conversely a sign, a
numeral and a rest that is not glued to it are taken off in just these portions. -/
theorem numberLiteral_eq_some_iff (before : Option Char) (text : List Char)
    (literal : NumberLiteral) (rest : List Char) :
    numberLiteral before text = some (literal, rest) ↔
      before.any isNumberPart = false ∧ rest.head?.any isNumberPart = false ∧
        ∃ negative, ∃ n : Numeral, text = signText negative ++ (n.text ++ rest) ∧
          literal = ⟨before, signText negative ++ n.text⟩ := by
  constructor
  · intro h
    obtain ⟨negative, unsigned, hsign, rfl⟩ := exists_takeSign text
    obtain ⟨decimals, tail, hdecimals, hfraction, hunsigned⟩ :=
      exists_takeFraction (unsigned.dropWhile isDigit)
    simp only [numberLiteral, hsign, hfraction] at h
    split_ifs at h with hbefore hglued
    simp only [Bool.or_eq_true, not_or, Bool.not_eq_true] at hbefore hglued
    obtain ⟨rfl, rfl⟩ := Prod.mk.inj (Option.some.inj h)
    have hwhole : isDigits (unsigned.takeWhile isDigit) = true := by simp [isDigits, hglued.1]
    refine ⟨hbefore, hglued.2, negative, ⟨_, decimals, hwhole, hdecimals⟩, ?_, ?_⟩
    · rw [Numeral.text, List.append_assoc, ← hunsigned, List.takeWhile_append_dropWhile]
    · rw [Numeral.text, List.append_assoc]
  · rintro ⟨hbefore, hrest, negative, n, rfl, rfl⟩
    have hhead := n.head?_ne_minus rest
    have hend : (fractionText n.decimals ++ rest).head?.any isDigit = false := by
      cases n.decimals with
      | none => exact any_isDigit_of_any_isNumberPart hrest
      | some digits => rfl
    have hwhole := all_of_isDigits n.whole_digits
    have hne : n.whole.isEmpty = false := by simpa using ne_nil_of_isDigits n.whole_digits
    have hunsigned : n.text ++ rest = n.whole ++ (fractionText n.decimals ++ rest) :=
      List.append_assoc _ _ _
    have hfraction := takeFraction_fractionText hrest n.decimals_digits
    rw [hunsigned] at hhead ⊢
    simp only [numberLiteral, hbefore, takeSign_signText negative hhead, takeWhile_run hwhole hend,
      dropWhile_run hwhole hend, hfraction, hne, hrest]
    rw [List.append_assoc]
    rfl

/-! ## The value of a numeral -/

/-- The double that a numeral stands for. -/
def Numeral.value (n : Numeral) (negative : Bool) : Float :=
  let decimals := n.decimals.getD []
  Number.ofDecimal negative (digitsValue (n.whole ++ decimals)) (-(decimals.length : Int))

/-- A numeral is made of digits and points.

**Proof sketch.** A character belongs to the whole part, or it is the point, or it belongs to the
decimals. -/
lemma Numeral.forall_mem_text (n : Numeral) : ∀ c ∈ n.text, isDigit c = true ∨ c = '.' := by
  intro c hc
  rcases List.mem_append.mp hc with hwhole | hfraction
  · exact Or.inl (List.all_eq_true.mp (all_of_isDigits n.whole_digits) c hwhole)
  · have hdecimals := n.decimals_digits
    cases hn : n.decimals with
    | none => simp [hn, fractionText] at hfraction
    | some digits =>
      rw [hn] at hdecimals hfraction
      rcases List.mem_cons.mp hfraction with rfl | hdigit
      · exact Or.inr rfl
      · exact Or.inl (List.all_eq_true.mp (all_of_isDigits hdecimals) c hdigit)

/-- A numeral is made of parts of numbers. -/
lemma Numeral.all_isNumberPart_text (n : Numeral) : n.text.all isNumberPart = true := by
  rw [List.all_eq_true]
  intro c hc
  rcases n.forall_mem_text c hc with hdigit | rfl
  · exact isNumberPart_of_isDigit hdigit
  · decide

/-- A numeral is read as a whole number and the number of its decimal places.

**Proof sketch.** The digits before the point end at the point or at the end of the text, and those
behind it at the end. -/
lemma decimal?_text (n : Numeral) :
    Number.decimal? n.text =
      some (digitsValue (n.whole ++ n.decimals.getD []), -((n.decimals.getD []).length : Int)) := by
  have hwhole := all_of_isDigits n.whole_digits
  have hne : n.whole.isEmpty = false := by simpa using ne_nil_of_isDigits n.whole_digits
  have hend : (fractionText n.decimals).head?.any isDigit = false := by
    cases n.decimals <;> rfl
  have hdecimals := n.decimals_digits
  simp only [Number.decimal?, Numeral.text, takeWhile_run hwhole hend,
    dropWhile_run hwhole hend, hne]
  cases hn : n.decimals with
  | none => simp [fractionText, Number.exponent?]
  | some digits =>
    rw [hn] at hdecimals
    have hdigits := List.all_eq_true.mp (all_of_isDigits hdecimals)
    simp only [fractionText, List.takeWhile_eq_self_iff.mpr hdigits,
      List.dropWhile_eq_nil_iff.mpr hdigits]
    simp [Number.exponent?]

/-- A text without blanks is not trimmed. -/
lemma trimNumber_of_forall {s : List Char} (h : ∀ c ∈ s, isBlank c = false) :
    Number.trimNumber s = s := by
  have hstart {t : List Char} (ht : ∀ c ∈ t, isBlank c = false) :
      t.dropWhile Number.isNumberBlank = t := by
    cases t with
    | nil => rfl
    | cons c rest =>
      have hc : isBlank c = false := ht c List.mem_cons_self
      exact List.dropWhile_cons_of_neg (by simp [Number.isNumberBlank, hc])
  rw [Number.trimNumber, hstart h, hstart (fun c hc => h c (List.mem_reverse.mp hc)),
    List.reverse_reverse]

/-- A text without underscores is taken as it is. -/
lemma dropUnderscores?_of_not_mem {s : List Char} (h : '_' ∉ s) (afterDigit : Bool) :
    Number.dropUnderscores? afterDigit s = some s := by
  induction s generalizing afterDigit with
  | nil => rfl
  | cons c rest ih =>
    have hc : c = '_' → False := by
      rintro rfl
      exact h List.mem_cons_self
    have hrest : '_' ∉ rest := fun hmem => h (List.mem_cons_of_mem c hmem)
    simp only [Number.dropUnderscores?, ih hrest, Option.map_some]

/-- The sign of a numeral is read, and the numeral is left.

**Proof sketch.** A numeral begins with a digit, so without a minus sign there is no sign to be
read. -/
lemma sign_signText (negative : Bool) (n : Numeral) :
    Number.sign (signText negative ++ n.text) = (negative, n.text) := by
  cases negative with
  | true => rfl
  | false =>
    obtain ⟨c, rest, htext, hc⟩ := n.exists_text_eq_cons
    have hminus : c ≠ '-' := by
      rintro rfl
      exact absurd hc (by decide)
    have hplus : c ≠ '+' := by
      rintro rfl
      exact absurd hc (by decide)
    rw [htext]
    simp [signText, Number.sign, hminus, hplus]

/-- A numeral with its sign is made of digits, points and minus signs. -/
lemma forall_mem_signed (negative : Bool) (n : Numeral) :
    ∀ c ∈ signText negative ++ n.text, isDigit c = true ∨ c = '.' ∨ c = '-' := by
  intro c hc
  rcases List.mem_append.mp hc with hsign | htext
  · cases negative with
    | false => simp [signText] at hsign
    | true => exact Or.inr (Or.inr (List.mem_singleton.mp hsign))
  · rcases n.forall_mem_text c htext with hdigit | hpoint
    · exact Or.inl hdigit
    · exact Or.inr (Or.inl hpoint)

/-- No blank stands in a numeral with its sign, so nothing is trimmed from it. -/
lemma trimNumber_signed (negative : Bool) (n : Numeral) :
    Number.trimNumber (signText negative ++ n.text) = signText negative ++ n.text := by
  refine trimNumber_of_forall fun c hc => ?_
  rcases forall_mem_signed negative n c hc with hdigit | rfl | rfl
  · exact isBlank_of_isDigit hdigit
  · decide
  · decide

/-- **Every numeral can be read**, with or without a minus sign, as the double that it stands
for. -/
theorem double?_numeral (negative : Bool) (n : Numeral) :
    Number.double? (signText negative ++ n.text) = some (n.value negative) := by
  have hunderscore : '_' ∉ signText negative ++ n.text := by
    intro hmem
    exact absurd (forall_mem_signed negative n '_' hmem) (by decide)
  rw [Number.double?, trimNumber_signed, dropUnderscores?_of_not_mem hunderscore]
  simp only [sign_signText, decimal?_text]
  rfl

end ScriptAudit.Script
