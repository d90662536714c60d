import ScriptAudit.Text.Ranges

/-!
# Blank characters and trimming

Blank characters are the Unicode white space together with the four ASCII separators
`U+001C`–`U+001F`.  Zero-width characters are not blank.  Lines, names and list entries are trimmed
by this one rule throughout.

## Main definitions

* `ScriptAudit.Text.isBlank` — the class of blank characters.
* `ScriptAudit.Text.trimStart`, `ScriptAudit.Text.trimEnd`, `ScriptAudit.Text.trim` — a text without
  its leading, its trailing, or both kinds of blank characters.
-/

set_option autoImplicit false

namespace ScriptAudit.Text

/-- The code points of the blank characters. -/
def blankRanges : List (Nat × Nat) :=
  [(0x0009, 0x000D), (0x001C, 0x0020), (0x0085, 0x0085), (0x00A0, 0x00A0), (0x1680, 0x1680),
   (0x2000, 0x200A), (0x2028, 0x2029), (0x202F, 0x202F), (0x205F, 0x205F), (0x3000, 0x3000)]

/-- Whether a character is blank. -/
def isBlank (c : Char) : Bool := inRanges c.toNat blankRanges

/-- The text without its leading blank characters. -/
def trimStart (s : List Char) : List Char := s.dropWhile isBlank

/-- The text without its trailing blank characters. -/
def trimEnd (s : List Char) : List Char := (s.reverse.dropWhile isBlank).reverse

/-- The text without its leading and trailing blank characters. -/
def trim (s : List Char) : List Char := trimEnd (trimStart s)

/-- Whether a text holds blank characters only. -/
def isBlankText (s : List Char) : Bool := s.all isBlank

/-- A blank differs from a character that is not blank. -/
theorem ne_of_isBlank {c d : Char} (hc : isBlank c = true) (hd : isBlank d = false) : c ≠ d := by
  rintro rfl
  rw [hc] at hd
  exact Bool.noConfusion hd

/-- Nothing is trimmed from a text without blanks. -/
theorem trim_of_forall {s : List Char} (h : ∀ c ∈ s, isBlank c = false) : trim s = s := by
  have hstart {t : List Char} (ht : ∀ c ∈ t, isBlank c = false) : t.dropWhile isBlank = t := by
    cases t with
    | nil => rfl
    | cons c rest => exact List.dropWhile_cons_of_neg (by simp [ht c List.mem_cons_self])
  rw [trim, trimStart, hstart h, trimEnd, hstart (fun c hc => h c (List.mem_reverse.mp hc)),
    List.reverse_reverse]

/-- Blanks at the end of a text are trimmed away. -/
theorem trimEnd_append_of_isBlankText {blanks : List Char} (h : isBlankText blanks = true)
    (s : List Char) : trimEnd (s ++ blanks) = trimEnd s := by
  have hall : ∀ c ∈ blanks.reverse, isBlank c = true := by
    intro c hc
    exact List.all_eq_true.mp h c (List.mem_reverse.mp hc)
  rw [trimEnd, List.reverse_append, List.dropWhile_append_of_pos hall, trimEnd]

/-- Blanks at the start of a text are trimmed away. -/
theorem trim_append_of_isBlankText {blanks : List Char} (h : isBlankText blanks = true)
    (s : List Char) : trim (blanks ++ s) = trim s := by
  rw [trim, trimStart, List.dropWhile_append_of_pos (List.all_eq_true.mp h), trim, trimStart]

/-- Trimming the end of a text does not reach beyond a part of it that is not blank. -/
theorem trimEnd_append_of_not_blank {t : List Char} (h : isBlankText t = false) (s : List Char) :
    trimEnd (s ++ t) = s ++ trimEnd t := by
  have hrest : (t.reverse.dropWhile isBlank).isEmpty = false := by
    rw [List.isEmpty_eq_false_iff]
    intro hnil
    have hall := List.takeWhile_append_dropWhile (p := isBlank) (l := t.reverse)
    rw [hnil, List.append_nil] at hall
    rw [isBlankText, ← List.all_reverse, ← hall, List.all_takeWhile] at h
    exact Bool.noConfusion h
  rw [trimEnd, List.reverse_append, List.dropWhile_append, if_neg (by simp [hrest]),
    List.reverse_append, List.reverse_reverse, trimEnd]

/-- Trimming the end of a text does not reach beyond a character that is not blank. -/
theorem trimEnd_append_cons {c : Char} (h : isBlank c = false) (s t : List Char) :
    trimEnd (s ++ c :: t) = s ++ c :: trimEnd t := by
  rw [List.append_cons]
  cases ht : isBlankText t with
  | true =>
    have hnil : trimEnd t = [] := trimEnd_append_of_isBlankText ht []
    have hend : trimEnd (s ++ [c]) = s ++ [c] := by simp [trimEnd, h]
    rw [trimEnd_append_of_isBlankText ht, hnil, hend]
  | false => rw [trimEnd_append_of_not_blank ht, List.append_assoc, List.singleton_append]

/-- Trimming the start of a text does not reach beyond a character that is not blank. -/
theorem trimStart_append_cons {c : Char} (h : isBlank c = false) (s t : List Char) :
    trimStart (s ++ c :: t) = trimStart s ++ c :: t := by
  rw [trimStart, List.dropWhile_append, List.dropWhile_cons_of_neg (by simp [h])]
  split
  · next hnil => rw [trimStart, List.isEmpty_iff.mp hnil, List.nil_append]
  · rfl

/-- A text consists of what trimming its end leaves, and of blanks. -/
theorem exists_eq_trimEnd_append (s : List Char) :
    ∃ blanks, isBlankText blanks = true ∧ s = trimEnd s ++ blanks := by
  refine ⟨(s.reverse.takeWhile isBlank).reverse, ?_, ?_⟩
  · rw [isBlankText, List.all_reverse, List.all_takeWhile]
  · rw [trimEnd, ← List.reverse_append, List.takeWhile_append_dropWhile, List.reverse_reverse]

/-- Trimming at the end leaves a beginning of the text. -/
theorem trimEnd_prefix (s : List Char) : trimEnd s <+: s := by
  obtain ⟨blanks, -, hs⟩ := exists_eq_trimEnd_append s
  exact ⟨blanks, hs.symm⟩

/-- Trimming at the end does not change whether a text is blank. -/
theorem isBlankText_trimEnd (s : List Char) : isBlankText (trimEnd s) = isBlankText s := by
  obtain ⟨blanks, hblanks, hs⟩ := exists_eq_trimEnd_append s
  have hall : isBlankText s = (isBlankText (trimEnd s) && isBlankText blanks) := by
    rw [isBlankText, isBlankText, isBlankText, ← List.all_append, ← hs]
  rw [hall, hblanks, Bool.and_true]

/-- Trimming at the start does not change whether a text is blank. -/
theorem isBlankText_trimStart (s : List Char) : isBlankText (trimStart s) = isBlankText s := by
  have hall : isBlankText s = ((s.takeWhile isBlank).all isBlank && isBlankText (trimStart s)) := by
    rw [isBlankText, isBlankText, trimStart, ← List.all_append, List.takeWhile_append_dropWhile]
  rw [hall, List.all_takeWhile, Bool.true_and]

/-- Nothing is left of a text by trimming if and only if it holds blank characters only. -/
theorem trim_eq_nil_iff (s : List Char) : trim s = [] ↔ isBlankText s = true := by
  rw [← isBlankText_trimStart, trim]
  constructor
  · intro h
    rw [← isBlankText_trimEnd, h]
    rfl
  · intro h
    exact trimEnd_append_of_isBlankText h []

/-- What is left by trimming the start of a text does not begin with a blank. -/
theorem head?_trimStart (s : List Char) : (trimStart s).head?.any isBlank = false := by
  have hstop := List.head?_dropWhile_not isBlank s
  rw [trimStart]
  cases h : (s.dropWhile isBlank).head? with
  | none => rfl
  | some c => simpa [h] using hstop

/-- A text that does not begin with a blank is not trimmed at the start. -/
theorem trimStart_of_head? {s : List Char} (h : s.head?.any isBlank = false) : trimStart s = s := by
  cases s with
  | nil => rfl
  | cons c rest => exact List.dropWhile_cons_of_neg (by simpa using h)

/-- Trimming at the end twice is the same as trimming once. -/
theorem trimEnd_trimEnd (s : List Char) : trimEnd (trimEnd s) = trimEnd s := by
  obtain ⟨blanks, hblanks, hs⟩ := exists_eq_trimEnd_append s
  have hagain : trimEnd (trimEnd s ++ blanks) = trimEnd (trimEnd s) :=
    trimEnd_append_of_isBlankText hblanks _
  rw [← hagain, ← hs]

/-- A trimmed text does not begin with a blank. -/
theorem head?_trim (s : List Char) : (trim s).head?.any isBlank = false := by
  obtain ⟨blanks, -, hs⟩ := exists_eq_trimEnd_append (trimStart s)
  have hstart := head?_trimStart s
  rw [hs] at hstart
  rw [trim]
  cases h : trimEnd (trimStart s) with
  | nil => rfl
  | cons c rest => simpa [h] using hstart

/-- Trimming adds no characters. -/
theorem mem_of_mem_trim {c : Char} {s : List Char} (h : c ∈ trim s) : c ∈ s := by
  rw [trim, trimEnd, List.mem_reverse] at h
  have hstart := (List.dropWhile_sublist isBlank).subset h
  exact (List.dropWhile_sublist isBlank).subset (List.mem_reverse.mp hstart)

/-- Blanks at the end of a text do not matter to trimming it. -/
theorem trim_append_blanks {blanks : List Char} (h : isBlankText blanks = true) (s : List Char) :
    trim (s ++ blanks) = trim s := by
  cases hs : isBlankText s with
  | true =>
    have hboth : isBlankText (s ++ blanks) = true := by
      rw [isBlankText, List.all_append, Bool.and_eq_true]
      exact ⟨hs, h⟩
    rw [(trim_eq_nil_iff _).mpr hboth, (trim_eq_nil_iff _).mpr hs]
  | false =>
    have hrest : (s.dropWhile isBlank).isEmpty = false := by
      rw [List.isEmpty_eq_false_iff]
      intro hnil
      rw [← isBlankText_trimStart, trimStart, hnil] at hs
      exact Bool.noConfusion hs
    rw [trim, trimStart, List.dropWhile_append, if_neg (by simp [hrest]),
      trimEnd_append_of_isBlankText h, trim, trimStart]

end ScriptAudit.Text
