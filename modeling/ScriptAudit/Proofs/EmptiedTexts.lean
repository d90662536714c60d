import Mathlib.Data.List.Infix
import Mathlib.Tactic.Common
import ScriptAudit.Proofs.Literals

/-!
# Texts that are code already

The code part of a text is taken from texts of any kind, also from such as hold quotes that are
never closed, backslashes that escape nothing, and line feeds.  Here it is shown that nothing is
left to be done in a code part.  Emptying literals takes out characters between quotes, and cutting
off a comment takes out all that follows; neither must close a literal that was open before.

What a quote sees behind itself depends on which backslashes escape the next character, and this
depends on where one begins to read.  But it is the same for all quotes: a quote is never a
backslash, so whoever begins to read behind a quote reads on exactly like someone who began earlier,
whether or not the quote itself was escaped.

## Main definitions

* `ScriptAudit.Script.Emptied` — all literals are empty, and all other quotes are never closed.
* `ScriptAudit.Script.IsCode` — the texts that are code already.

## Main results

* `ScriptAudit.Script.closing?_emptyLiterals` — emptying literals closes no literal.
* `ScriptAudit.Script.emptied_emptyLiterals`, `ScriptAudit.Script.Emptied.of_beginning` — what
  emptying leaves is emptied, and so is every beginning of it.
* `ScriptAudit.Script.code_code` — a code part is its own code part.
-/

set_option relaxedAutoImplicit false
set_option autoImplicit false

namespace ScriptAudit.Script

open Text

/-- **A text whose literals are empty.**  A quote is either followed by its closing quote at once,
or it is never closed. -/
inductive Emptied : List Char → Prop where
  | nil : Emptied []
  | plain {c : Char} {rest : List Char} (hc : isQuote c = false) (hrest : Emptied rest) :
      Emptied (c :: rest)
  | literal {quote : Char} {rest : List Char} (hquote : isQuote quote = true)
      (hrest : Emptied rest) :
      Emptied (quote :: quote :: rest)
  | stray {quote : Char} {rest : List Char} (hquote : isQuote quote = true)
      (hunclosed : closing? quote rest = none) (hrest : Emptied rest) : Emptied (quote :: rest)

/-- **A text that is code already**: its literals are empty, no comment begins in it, and no blank
ends it. -/
structure IsCode (text : List Char) : Prop where
  emptied : Emptied text
  not_mem_sign : '#' ∉ text
  trimEnd_eq : trimEnd text = text

/-! ## Quotes that are never closed -/

section Quotes

variable {quote : Char} (hquote : isQuote quote = true)
include hquote

/-- What closes a literal closes it whatever follows. -/
lemma closing?_append {s after : List Char} (h : closing? quote s = some after) (rest : List Char) :
    closing? quote (s ++ rest) = some (after ++ rest) := by
  fun_induction closing? quote s with
  | case1 => simp at h
  | case2 => simp at h
  | case3 c more hc ih => simpa [closing?, hc] using ih h
  | case4 more =>
    obtain rfl : more = after := Option.some.inj h
    simp [closing?, ne_backslash_of_isQuote hquote]
  | case5 => simp at h
  | case6 c more _ hclose hbackslash ih => simpa [closing?, hclose, hbackslash] using ih h

/-- A quote that is never closed in a text is not closed in a beginning of it. -/
lemma closing?_eq_none_of_beginning {s t : List Char} (hbegins : s <+: t)
    (h : closing? quote t = none) :
    closing? quote s = none := by
  obtain ⟨rest, rfl⟩ := hbegins
  cases hs : closing? quote s with
  | none => rfl
  | some after => simp [closing?_append hquote hs rest] at h

/-- **Quotes keep step.**  If a quote is never closed, then neither is it behind a literal in quotes
of the other kind.

**Proof sketch.** Induction along the content of the literal.  Both quotes take the same backslashes
for escapes, so both come to the end of the content, and there the quote of the other kind is an
ordinary character. -/
lemma closing?_behind {other : Char} (hother : isQuote other = true) {s after : List Char}
    (hclosed : closing? other s = some after) (h : closing? quote s = none) :
    other ≠ quote ∧ closing? quote after = none := by
  have hne : other ≠ quote := by
    rintro rfl
    simp [hclosed] at h
  refine ⟨hne, ?_⟩
  fun_induction closing? other s with
  | case1 => simp at hclosed
  | case2 => simp at hclosed
  | case3 c rest hc ih => exact ih hclosed (by simpa [closing?, hc] using h)
  | case4 rest =>
    obtain rfl : rest = after := Option.some.inj hclosed
    simpa [closing?, hne, ne_backslash_of_isQuote hother] using h
  | case5 => simp at hclosed
  | case6 c rest _ _ hbackslash ih =>
    have hc : c ≠ quote := by
      rintro rfl
      simp [closing?] at h
    exact ih hclosed (by simpa [closing?, hc, hbackslash] using h)

/-- Emptying the literals of a text leaves its first character, and closes nothing behind it,
provided that it closes nothing in shorter texts.

**Proof sketch.** By what the first character is.  Only if it opens a literal that is closed does
the rest not begin at once behind it; then the quote is unclosed behind that literal too, by
`closing?_behind`. -/
lemma exists_emptyLiterals_unclosed (c : Char) {rest : List Char} (h : closing? quote rest = none)
    (ih : ∀ t : List Char, t.length ≤ rest.length → closing? quote t = none →
      closing? quote (emptyLiterals t) = none) :
    ∃ more, emptyLiterals (c :: rest) = c :: more ∧ closing? quote more = none := by
  cases hc : isQuote c with
  | false => exact ⟨_, emptyLiterals_cons hc rest, ih rest le_rfl h⟩
  | true =>
    cases hclosing : closing? c rest with
    | none => exact ⟨_, emptyLiterals_of_unclosed hc hclosing, ih rest le_rfl h⟩
    | some after =>
      obtain ⟨hne, hafter⟩ := closing?_behind hquote hc hclosing h
      have hshorter := length_lt_of_closing? hclosing
      refine ⟨_, emptyLiterals_of_closed hc hclosing, ?_⟩
      simpa [closing?, hne, ne_backslash_of_isQuote hc] using ih after (by omega) hafter

/-- **Emptying literals closes no literal.**

**Proof sketch.** Induction on the length of the text.  A backslash and the character behind it are
read together, and this character may itself open a literal that is emptied: its quote stays behind
the backslash, and the rest goes on behind the literal. -/
lemma closing?_emptyLiterals (s : List Char) (h : closing? quote s = none) :
    closing? quote (emptyLiterals s) = none := by
  induction hlength : s.length using Nat.strong_induction_on generalizing s with
  | h n ih =>
    subst hlength
    have hshorter : ∀ t : List Char, t.length < s.length → closing? quote t = none →
        closing? quote (emptyLiterals t) = none :=
      fun t ht hunclosed => ih t.length ht t hunclosed rfl
    rcases s with _ | ⟨c, rest⟩
    · rwa [emptyLiterals]
    by_cases hc : c = '\\'
    · subst hc
      rw [emptyLiterals_cons (by decide)]
      rcases rest with _ | ⟨d, rest⟩
      · rwa [emptyLiterals]
      by_cases hfeed : d = '\n'
      · subst hfeed
        rw [emptyLiterals_cons (by decide)]
        simp [closing?]
      · have hrest : closing? quote rest = none := by simpa [closing?, hfeed] using h
        obtain ⟨more, hmore, hunclosed⟩ := exists_emptyLiterals_unclosed hquote d hrest fun t ht =>
          hshorter t (by simp only [List.length_cons]; omega)
        rw [hmore]
        simpa [closing?, hfeed] using hunclosed
    · have hne : c ≠ quote := by
        rintro rfl
        simp [closing?, hc] at h
      have hrest : closing? quote rest = none := by simpa [closing?, hc, hne] using h
      obtain ⟨more, hmore, hunclosed⟩ := exists_emptyLiterals_unclosed hquote c hrest fun t ht =>
        hshorter t (by simp only [List.length_cons]; omega)
      rw [hmore]
      simpa [closing?, hc, hne] using hunclosed

end Quotes

/-! ## Emptied texts -/

/-- Emptying does nothing to an emptied text.

**Proof sketch.** Induction on how the text is emptied: an empty literal is closed at once, and a
stray quote never. -/
lemma emptyLiterals_of_emptied {s : List Char} (h : Emptied s) : emptyLiterals s = s := by
  induction h with
  | nil => rw [emptyLiterals]
  | plain hc _ ih => rw [emptyLiterals_cons hc, ih]
  | @literal quote rest hquote _ ih =>
    have hclosing : closing? quote (quote :: rest) = some rest := closing?_content hquote .nil rest
    rw [emptyLiterals_of_closed hquote hclosing, ih]
  | stray hquote hunclosed _ ih => rw [emptyLiterals_of_unclosed hquote hunclosed, ih]

/-- Emptying leaves an emptied text.

**Proof sketch.** Induction along the emptying.  A quote that was not closed before is not closed by
what is emptied behind it. -/
lemma emptied_emptyLiterals (s : List Char) : Emptied (emptyLiterals s) := by
  fun_induction emptyLiterals s with
  | case1 => exact .nil
  | case2 quote rest hquote after _ ih => exact .literal hquote ih
  | case3 quote rest hquote hunclosed ih =>
    exact .stray hquote (closing?_emptyLiterals hquote rest hunclosed) ih
  | case4 c rest hc ih => exact .plain (by simpa using hc) ih

/-- A beginning of an emptied text is emptied, also if it ends between the two quotes of a literal.

**Proof sketch.** Induction on how the text is emptied.  Between the two quotes of a literal the
beginning ends with a quote that is never closed, and a quote that is not closed in the text is not
closed in the beginning. -/
lemma Emptied.of_beginning {s t : List Char} (ht : Emptied t) (h : s <+: t) : Emptied s := by
  induction ht generalizing s with
  | nil =>
    rw [List.prefix_nil.mp h]
    exact .nil
  | plain hc _ ih =>
    rcases List.prefix_cons_iff.mp h with rfl | ⟨more, rfl, hmore⟩
    · exact .nil
    · exact .plain hc (ih hmore)
  | literal hquote _ ih =>
    rcases List.prefix_cons_iff.mp h with rfl | ⟨more, rfl, hmore⟩
    · exact .nil
    rcases List.prefix_cons_iff.mp hmore with rfl | ⟨tail, rfl, htail⟩
    · exact .stray hquote rfl .nil
    · exact .literal hquote (ih htail)
  | stray hquote hunclosed _ ih =>
    rcases List.prefix_cons_iff.mp h with rfl | ⟨more, rfl, hmore⟩
    · exact .nil
    · exact .stray hquote (closing?_eq_none_of_beginning hquote hmore hunclosed) (ih hmore)

/-! ## Code parts -/

/-- A code part is code. -/
lemma isCode_code (text : List Char) : IsCode (code text) := by
  have hcut : code text <+: (emptyLiterals text).takeWhile (· != '#') := trimEnd_prefix _
  refine ⟨?_, ?_, trimEnd_trimEnd _⟩
  · exact (emptied_emptyLiterals text).of_beginning (hcut.trans (List.takeWhile_prefix _))
  · intro hmem
    simpa using List.mem_takeWhile_imp (hcut.subset hmem)

/-- Nothing is taken away from a text that is code already. -/
lemma IsCode.code_eq {text : List Char} (h : IsCode text) : code text = text := by
  have hsign : text.takeWhile (· != '#') = text := by
    rw [List.takeWhile_eq_self_iff]
    intro c hc
    rw [bne_iff_ne]
    rintro rfl
    exact h.not_mem_sign hc
  rw [code, emptyLiterals_of_emptied h.emptied, hsign, h.trimEnd_eq]

/-- **A code part is its own code part**, whatever the text is that it was taken from, and no number
sign is in it.  The texts that are their own code part are those whose literals are empty and whose
other quotes are never closed, without number signs and without blanks at the end. -/
theorem code_code (text : List Char) :
    code (code text) = code text ∧ '#' ∉ code text ∧ (code text = text ↔ IsCode text) := by
  refine ⟨(isCode_code text).code_eq, (isCode_code text).not_mem_sign, fun h => ?_, IsCode.code_eq⟩
  rw [← h]
  exact isCode_code text

/-- The apostrophe is never closed, so it stays where it is. -/
example : code "don't say(\"a # b\")  # c".toList = "don't say(\"\")".toList := by
  decide +kernel

end ScriptAudit.Script
