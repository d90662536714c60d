import Mathlib.Algebra.Order.Ring.Nat
import Mathlib.Tactic.Common
import ScriptAudit.Proofs.Stretches
import ScriptAudit.Script.Decision

/-!
# Words that are decisions

The decision points of a line are counted by several searches, one of which counts a word too often
and is corrected afterwards.  Together they count words: the words `if`, `and` and `or` wherever
they stand, pairs of signs, and a few more words at the start of the line.  A word is a maximal run
of word characters, so keywords inside names do not count.

## Main definitions

* `ScriptAudit.Script.decidingWords`, `ScriptAudit.Script.leadingWords` — the words that are
  decisions everywhere, and those that are decisions at the start of a line.
* `ScriptAudit.Script.firstWord` — the word at the start of a text.

## Main results

* `ScriptAudit.Script.startsWithWord_iff` — a text starts with a word if that is its first word.
* `ScriptAudit.Script.countWord_eq_countP`, `ScriptAudit.Script.countPairs_eq_sum` — the searches
  count words, and pairs in runs of a sign.
* `ScriptAudit.Script.decisions_eq_words` — decision points as a count of words.
-/

set_option relaxedAutoImplicit false
set_option autoImplicit false

namespace ScriptAudit.Script

open Text

/-- The words that are decisions wherever they stand. -/
def decidingWords : List (List Char) := ["if".toList, "and".toList, "or".toList]

/-- The words that are decisions only at the start of a line. -/
def leadingWords : List (List Char) := ["elif".toList, "for".toList, "while".toList, "match".toList]

/-- The word at the start of a text, which is empty if the text does not start with a word
character. -/
def firstWord (text : List Char) : List Char := text.takeWhile isWordChar

/-! ## Free words -/

section FreeWords

variable {word : List Char} (hword : word.all isWordChar = true)
include hword

/-- **A text starts with a word** exactly if the word is its first one.

**Proof sketch.** If the text begins with the word and no word character follows, the word is the
whole run of word characters at the beginning.  Conversely the text is this run followed by
something that does not begin with a word character. -/
lemma startsWithWord_iff (text : List Char) :
    startsWithWord word text = true ↔ firstWord text = word := by
  unfold startsWithWord
  constructor
  · intro h
    split at h
    · next rest hrest =>
      rw [← List.isPrefixOf?_eq_some_iff_append_eq.mp hrest]
      exact takeWhile_run hword (by simpa [startsWithWordChar] using h)
    · simp at h
  · intro h
    have htext : word ++ text.dropWhile isWordChar = text := by
      rw [← h]
      exact List.takeWhile_append_dropWhile
    rw [List.isPrefixOf?_eq_some_iff_append_eq.mpr htext]
    simp [startsWithWordChar, any_head?_dropWhile]

/-- No word begins at a character that is not one of words. -/
lemma freeWord_of_not_wordChar (hne : word ≠ []) {c : Char} (hc : isWordChar c = false)
    (before : Option Char) (rest : List Char) : freeWord word before (c :: rest) = none := by
  have hstarts : startsWithWord word (c :: rest) = false := by
    rw [← Bool.not_eq_true, startsWithWord_iff hword]
    simpa [firstWord, hc] using hne.symm
  simp [freeWord, hstarts]

/-- At the beginning of a stretch of word characters a free word is found exactly if it is that
stretch.

**Proof sketch.** The first word of what is left is the stretch itself, so the text starts with the
word exactly if they are equal; and no word character stands before it. -/
lemma freeWord_stretch {before : Option Char} (hbefore : before.any isWordChar = false)
    {run after : List Char} (hrun : run.all isWordChar = true)
    (hafter : after.head?.any isWordChar = false) :
    freeWord word before (run ++ after) =
      (if run = word then some () else none).map (·, after) := by
  have hfirst : firstWord (run ++ after) = run := takeWhile_run hrun hafter
  have hstarts := startsWithWord_iff hword (run ++ after)
  rw [hfirst] at hstarts
  unfold freeWord
  split_ifs with hfail heq heq
  · simp [hbefore, hstarts.mpr heq] at hfail
  · rfl
  · rw [← heq, List.drop_left]
    rfl
  · simp only [hbefore, Bool.false_or, Bool.not_eq_true', Bool.not_eq_false] at hfail
    exact absurd (hstarts.mp hfail) heq

/-- **Free words are words.**  A word stands free in a text as often as it is one of the words of
the text.

**Proof sketch.** Induction over the text, stretch by stretch.  Outside of words nothing is found.
At the beginning of a stretch the word is found exactly if it is the stretch, and inside of a
stretch it is blocked by the character before, so the search goes on behind it. -/
lemma countWord_eq_countP (hne : word ≠ []) (text : List Char) :
    countWord word text = (stretches isWordChar text).countP (·.text == word) := by
  have hblocked : ∀ c text, isWordChar c = true → freeWord word (some c) text = none := by
    intro c text hc
    simp [freeWord, hc]
  have hsearch : ∀ before rest,
      before.getLast?.any isWordChar = false ∨ rest.head?.any isWordChar = false →
      (findFrom (freeWord word) 0 before.getLast? rest).length =
        (stretchesFrom isWordChar before rest).countP (·.text == word) := by
    refine stretch_induction ?_ ?_ ?_
    · intro before
      rfl
    · intro before c rest hc ih
      rw [findFrom_of_eq_none (freeWord_of_not_wordChar hword hne hc _ rest),
        stretchesFrom_cons_of_not_inClass hc, ← ih, List.getLast?_concat]
    · intro before run after hrun hall hbefore hafter ih
      rw [findFrom_stretch hblocked hrun hall (freeWord_stretch hword hbefore hall hafter),
        stretchesFrom_append hrun hall hbefore hafter, List.countP_cons, ← ih, List.length_append,
        List.getLast?_append_of_ne_nil before hrun, Nat.add_comm]
      simp only [beq_iff_eq]
      split_ifs <;> rfl
  exact hsearch [] text (Or.inl rfl)

end FreeWords

/-! ## Pairs of signs -/

/-- No pair of signs begins at another character. -/
lemma doubledSign_of_ne {sign c : Char} (h : c ≠ sign) (before : Option Char) (rest : List Char) :
    doubledSign sign before (c :: rest) = none := by
  simp [doubledSign, List.isPrefixOf?, h.symm]

/-- No pair of signs begins at a sign that stands alone. -/
lemma doubledSign_single {sign : Char} {after : List Char}
    (hafter : after.head?.any (· == sign) = false)
    (before : Option Char) : doubledSign sign before (sign :: after) = none := by
  cases after with
  | nil => simp [doubledSign, List.isPrefixOf?]
  | cons c rest =>
    have hc : c ≠ sign := by simpa using hafter
    simp [doubledSign, List.isPrefixOf?, hc.symm]

/-- The pairs in a run of a sign are taken from the left, so at most one sign of the run is left
over.

**Proof sketch.** Induction on the run, two signs at a time.  A pair is found at once and the search
goes on behind it; a single sign that is left over makes no pair with what follows. -/
lemma length_findFrom_doubledSign {sign : Char} {after : List Char}
    (hafter : after.head?.any (· == sign) = false) :
    ∀ (run : List Char), run.all (· == sign) = true → ∀ before : Option Char,
      (findFrom (doubledSign sign) 0 before (run ++ after)).length =
        run.length / 2 + (findFrom (doubledSign sign) 0 (run.getLast?.or before) after).length
  | [], _, before => by simp
  | [c], hrun, before => by
    obtain rfl : c = sign := by simpa using hrun
    rw [List.singleton_append, findFrom_of_eq_none (doubledSign_single hafter before)]
    simp
  | c :: d :: more, hrun, before => by
    simp only [List.all_cons, Bool.and_eq_true, beq_iff_eq] at hrun
    obtain ⟨rfl, rfl, hmore⟩ := hrun
    have hpair : doubledSign d before (d :: [d] ++ (more ++ after)) = some ((), more ++ after) := by
      simp [doubledSign, List.isPrefixOf?]
    have hfound := findFrom_of_eq_some hpair
    have ih := length_findFrom_doubledSign hafter more hmore (some d)
    have hlast : (d :: d :: more).getLast?.or before = more.getLast?.or (some d) := by
      rw [List.getLast?_cons_cons, List.getLast?_cons]
      cases more.getLast? <;> rfl
    rw [hlast]
    simp only [List.cons_append, List.nil_append, List.getLast?_cons_cons,
      List.getLast?_singleton] at hfound ⊢
    rw [hfound, List.length_cons, ih, List.length_cons, List.length_cons]
    omega

/-- **Pairs of a sign** are counted run by run: each run gives half its length, rounded down.

**Proof sketch.** Induction over the text, run by run.  Outside of runs no pair is found, and a run
gives half its length by `length_findFrom_doubledSign`. -/
lemma countPairs_eq_sum (sign : Char) (text : List Char) :
    countPairs sign text = ((stretches (· == sign) text).map (·.text.length / 2)).sum := by
  have hsearch : ∀ before rest,
      before.getLast?.any (· == sign) = false ∨ rest.head?.any (· == sign) = false →
      (findFrom (doubledSign sign) 0 before.getLast? rest).length =
        ((stretchesFrom (· == sign) before rest).map (·.text.length / 2)).sum := by
    refine stretch_induction ?_ ?_ ?_
    · intro before
      rfl
    · intro before c rest hc ih
      have hne : c ≠ sign := by simpa using hc
      have hstep : stretchesFrom (· == sign) before (c :: rest) =
          stretchesFrom (· == sign) (before ++ [c]) rest :=
        stretchesFrom_cons_of_not_inClass (by simpa using hc) before rest
      rw [findFrom_of_eq_none (doubledSign_of_ne hne _ rest), hstep, ← ih, List.getLast?_concat]
    · intro before run after hrun hall hbefore hafter ih
      rw [length_findFrom_doubledSign hafter run hall,
        stretchesFrom_append hrun hall hbefore hafter, List.map_cons, List.sum_cons, ← ih,
        List.getLast?_append, Nat.add_left_cancel_iff]
  exact hsearch [] text (Or.inl rfl)

/-! ## Decision points -/

/-- The stretches that are one of three words are counted word by word.

**Proof sketch.** Induction on the stretches.  The three words are different, so each stretch is
counted once or not at all. -/
lemma countP_decidingWords (ss : List Stretch) :
    ss.countP (decidingWords.contains ·.text) =
      ss.countP (·.text == "if".toList) + ss.countP (·.text == "and".toList) +
        ss.countP (·.text == "or".toList) := by
  induction ss with
  | nil => rfl
  | cons s ss ih =>
    have hone : (if decidingWords.contains s.text then 1 else 0) =
        (if s.text == "if".toList then 1 else 0) + (if s.text == "and".toList then 1 else 0) +
          (if s.text == "or".toList then 1 else 0) := by
      by_cases hif : s.text = "if".toList
      · rw [hif]; decide
      by_cases hand : s.text = "and".toList
      · rw [hand]; decide
      by_cases hor : s.text = "or".toList
      · rw [hor]; decide
      simp only [decidingWords, List.contains_cons, List.contains_nil, beq_false_of_ne hif,
        beq_false_of_ne hand, beq_false_of_ne hor]
      rfl
    simp only [List.countP_cons, ih, hone]
    omega

/-- A text starts with one of some words exactly if its first word is among them. -/
lemma any_startsWithWord {words : List (List Char)} (hwords : words.all (·.all isWordChar) = true)
    (text : List Char) : words.any (startsWithWord · text) = words.contains (firstWord text) := by
  rw [Bool.eq_iff_iff, List.any_eq_true, List.contains_iff_mem]
  constructor
  · rintro ⟨word, hword, hstarts⟩
    rw [(startsWithWord_iff (List.all_eq_true.mp hwords word hword) text).mp hstarts]
    exact hword
  · intro hmem
    exact ⟨_, hmem, (startsWithWord_iff (List.all_eq_true.mp hwords _ hmem) text).mpr rfl⟩

/-- The leading `if` is among the words that were counted.

**Proof sketch.** A leading `if` is the first word of the text, so it is one of the stretches that
are counted. -/
lemma leadingIf_le_countWord (text : List Char) :
    (if startsWithWord "if".toList text then 1 else 0) ≤ countWord "if".toList text := by
  split_ifs with hstarts
  · have hfirst := (startsWithWord_iff (by decide) text).mp hstarts
    rw [countWord_eq_countP (by decide) (by decide), Nat.succ_le_iff, List.countP_pos_iff]
    refine ⟨⟨[], firstWord text, text.dropWhile isWordChar⟩,
      (mem_stretches_iff _ _).mpr ?_, by simp [hfirst]⟩
    have hne : firstWord text ≠ [] := by
      rw [hfirst]
      decide
    exact ⟨List.takeWhile_append_dropWhile.symm, hne, List.all_takeWhile, rfl,
      any_head?_dropWhile text⟩
  · exact Nat.zero_le _

/-- **The decisions of a line**, all counted in the same way: by words and by runs of signs.

**Proof sketch.** Words and pairs are counted by `countWord_eq_countP` and `countPairs_eq_sum`.  A
leading `if` is counted twice, as a keyword and as a free word, and taken off once, so that it
counts as one of the words. -/
lemma decisions_eq (text : List Char) :
    decisions text =
      (stretches isWordChar text).countP (decidingWords.contains ·.text) +
        ((stretches (· == '&') text).map (·.text.length / 2)).sum +
        ((stretches (· == '|') text).map (·.text.length / 2)).sum +
        (if leadingWords.contains (firstWord text) then 1 else 0) := by
  -- a leading keyword is a leading `if` or one of the other words, and never both
  have hleading : (if branchKeywords.any (startsWithWord · text) then 1 else 0) =
      (if startsWithWord "if".toList text then 1 else 0) +
        (if leadingWords.contains (firstWord text) then 1 else 0) := by
    have hkeywords : branchKeywords = "if".toList :: leadingWords := rfl
    rw [hkeywords, List.any_cons, any_startsWithWord (by decide)]
    cases hstarts : startsWithWord "if".toList text with
    | false => simp
    | true =>
      rw [(startsWithWord_iff (by decide) text).mp hstarts]
      decide
  have hif := leadingIf_le_countWord text
  rw [countP_decidingWords, ← countWord_eq_countP (by decide) (by decide),
    ← countWord_eq_countP (by decide) (by decide), ← countWord_eq_countP (by decide) (by decide),
    ← countPairs_eq_sum, ← countPairs_eq_sum]
  simp only [decisions, hleading]
  omega

section Separated

variable {inClass : Char → Bool} {separator : Char} (h : inClass separator = false)
  (s t : List Char)
include h

/-- Counting stretches by their texts goes through on both sides of a separator. -/
lemma countP_stretches_append (p : List Char → Bool) :
    (stretches inClass (s ++ separator :: t)).countP (p ·.text) =
      (stretches inClass s).countP (p ·.text) + (stretches inClass t).countP (p ·.text) := by
  have hmap (text : List Char) : (stretches inClass text).countP (p ·.text) =
      ((stretches inClass text).map Stretch.text).countP p := by
    rw [List.countP_map]
    rfl
  rw [hmap, hmap, hmap, map_text_stretches_append h, List.countP_append]

/-- Adding up over stretches goes through on both sides of a separator. -/
lemma sum_stretches_append (f : List Char → Nat) :
    ((stretches inClass (s ++ separator :: t)).map (f ·.text)).sum =
      ((stretches inClass s).map (f ·.text)).sum + ((stretches inClass t).map (f ·.text)).sum := by
  have hmap (text : List Char) : (stretches inClass text).map (f ·.text) =
      ((stretches inClass text).map Stretch.text).map f := by
    rw [List.map_map]
    rfl
  rw [hmap, hmap, hmap, map_text_stretches_append h, List.map_append, List.sum_append]

end Separated

/-- **Decision points are a count of words.**  A line has as many decision points as it has words
`if`, `and` and `or`, pairs in its runs of either sign, and one more if its first word is one of the
other keywords.  The correction for a leading `if` never takes away more than was counted.  So the
decision points of two texts with a space between them add up, unless the second one starts with a
word that counts only there.

**Proof sketch.** The space between the texts is neither a word character nor one of the signs, so
no stretch crosses it and the stretches of both are counted apart.  Only the first word of the first
text is a leading one. -/
theorem decisions_eq_words (text : List Char) :
    decisions text =
        (stretches isWordChar text).countP (decidingWords.contains ·.text) +
          ((stretches (· == '&') text).map (·.text.length / 2)).sum +
          ((stretches (· == '|') text).map (·.text.length / 2)).sum +
          (if leadingWords.contains (firstWord text) then 1 else 0) ∧
      (if startsWithWord "if".toList text then 1 else 0) ≤ countWord "if".toList text ∧
      ∀ other, leadingWords.contains (firstWord other) = false →
        decisions (text ++ ' ' :: other) = decisions text + decisions other := by
  refine ⟨decisions_eq text, leadingIf_le_countWord text, fun other hother => ?_⟩
  have hfirst : firstWord (text ++ ' ' :: other) = firstWord text :=
    takeWhile_append_separator (by decide) text other
  rw [decisions_eq, decisions_eq text, decisions_eq other, hother, hfirst,
    countP_stretches_append (by decide) text other decidingWords.contains,
    sum_stretches_append (by decide) text other (·.length / 2),
    sum_stretches_append (by decide) text other (·.length / 2)]
  simp only [Bool.false_eq_true, if_false]
  omega

/-- Keywords inside names do not count, nor does the third of three equal signs. -/
theorem decisions_eq_words_glued :
    leadingWords.contains (firstWord "format or (a &&& b)".toList) = false ∧
      decisions ("if x and_y||z".toList ++ ' ' :: "format or (a &&& b)".toList) = 4 := by
  have hother : leadingWords.contains (firstWord "format or (a &&& b)".toList) = false := by decide
  have hsum := (decisions_eq_words "if x and_y||z".toList).2.2 _ hother
  refine ⟨hother, hsum.trans ?_⟩
  decide +kernel

end ScriptAudit.Script
