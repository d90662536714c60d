import Mathlib.Data.List.TakeWhile
import Mathlib.Tactic.Common
import ScriptAudit.Checks.Line
import ScriptAudit.Proofs.Stretches

/-!
# Variables without a type

A variable is declared by the keyword `var` and a name, behind any number of annotations.  This is
said here as a grammar: what a declaration is made of, and its text.  The recogniser reads from left
to right and never goes back; that it misses no way of dividing a line into the parts of a
declaration, and divides every line as the grammar does, is what is proved.  So the check for
missing types reports exactly the declarations whose name is not followed by a colon, and
annotations do not matter to it.

## Main definitions

* `ScriptAudit.Script.Annotation` — an annotation with its arguments and the blanks behind it.
* `ScriptAudit.Script.VariableLine` — the parts of a variable declaration.

## Main results

* `ScriptAudit.Script.afterAnnotation?_eq_some_iff`, `ScriptAudit.Script.afterKeyword?_eq_some_iff`,
  `ScriptAudit.Script.name?_eq_some_iff` — what the recognisers of the parts find.
* `ScriptAudit.Script.variableDeclaration?_eq_some_iff` — what is recognised as a declaration.
* `ScriptAudit.LineCheck.judge_missingTypeHint_iff` — what the check reports.
-/

set_option relaxedAutoImplicit false
set_option autoImplicit false

namespace ScriptAudit.Script

open Text

/-! ## The grammar -/

/-- At least one blank character, and nothing else. -/
def IsGap (s : List Char) : Prop := s ≠ [] ∧ isBlankText s = true

instance : DecidablePred IsGap := fun _ => inferInstanceAs (Decidable (_ ∧ _))

/-- A name: an ASCII letter or an underscore, and word characters. -/
def IsName (s : List Char) : Prop := s.head?.any isNameStart = true ∧ s.tail.all isWordChar = true

instance : DecidablePred IsName := fun _ => inferInstanceAs (Decidable (_ ∧ _))

/-- **An annotation**: an at sign and word characters, perhaps arguments in parentheses, which hold
no closing one, and blanks. -/
structure Annotation where
  word : List Char
  arguments : Option (List Char)
  gap : List Char
  word_ne_nil : word ≠ []
  all_word : word.all isWordChar = true
  closed : ∀ inner ∈ arguments, ')' ∉ inner
  isGap : IsGap gap

/-- The text of an argument list: nothing, or the arguments in parentheses. -/
def argumentText : (arguments : Option (List Char)) → List Char
  | none => []
  | some inner => '(' :: (inner ++ [')'])

/-- The text of an annotation. -/
def Annotation.text (a : Annotation) : List Char :=
  '@' :: (a.word ++ (argumentText a.arguments ++ a.gap))

/-- An annotation is written as a sign, a word, its arguments and a gap. -/
lemma Annotation.text_append (a : Annotation) (rest : List Char) :
    a.text ++ rest = '@' :: (a.word ++ (argumentText a.arguments ++ (a.gap ++ rest))) := by
  simp [text]

/-- The text of several annotations, one behind the other. -/
def annotationText (annotations : List Annotation) : List Char :=
  annotations.flatMap Annotation.text

/-- **A variable declaration**: annotations, the keyword, blanks, a name, and a remainder that does
not go on with the name. -/
structure VariableLine where
  annotations : List Annotation
  gap : List Char
  name : List Char
  remainder : List Char
  isGap : IsGap gap
  isName : IsName name
  name_ends : startsWithWordChar remainder = false

/-- The text of a variable declaration. -/
def VariableLine.text (d : VariableLine) : List Char :=
  annotationText d.annotations ++ ("var".toList ++ (d.gap ++ (d.name ++ d.remainder)))

/-- A declaration is untyped if no colon follows the name and the blanks behind it. -/
def VariableLine.IsUntyped (d : VariableLine) : Prop := (trimStart d.remainder).head? ≠ some ':'

instance : DecidablePred VariableLine.IsUntyped := fun _ => inferInstanceAs (Decidable (_ ≠ _))

/-! ## Blanks, names and arguments -/

/-- **A gap is found** where a blank stands: what is left behind it begins with none.

**Proof sketch.** Trimming takes away the blanks that follow the first one, and all of them together
are the gap.  Conversely a gap begins with a blank, and what is left is trimmed up to the first
character that is none. -/
lemma gap_iff (text after : List Char) :
    (∃ c rest, text = c :: rest ∧ isBlank c = true ∧ trimStart rest = after) ↔
      ∃ gap, IsGap gap ∧ text = gap ++ after ∧ after.head?.any isBlank = false := by
  constructor
  · rintro ⟨c, rest, rfl, hc, rfl⟩
    refine ⟨c :: rest.takeWhile isBlank, ⟨List.cons_ne_nil _ _, ?_⟩, ?_, head?_trimStart rest⟩
    · simp [isBlankText, hc]
    · rw [trimStart, List.cons_append, List.takeWhile_append_dropWhile]
  · rintro ⟨gap, ⟨hne, hall⟩, rfl, hafter⟩
    cases gap with
    | nil => exact absurd rfl hne
    | cons c more =>
      rw [isBlankText, List.all_cons, Bool.and_eq_true] at hall
      exact ⟨c, more ++ after, rfl, hall.1, dropWhile_run hall.2 hafter⟩

/-- **What follows a keyword**: the keyword, at least one blank, and a text that begins with none.

**Proof sketch.** The keyword is taken off first, and then `gap_iff` says what follows it. -/
lemma afterKeyword?_eq_some_iff (keyword text after : List Char) :
    afterKeyword? keyword text = some after ↔
      ∃ gap, IsGap gap ∧ text = keyword ++ (gap ++ after) ∧ after.head?.any isBlank = false := by
  have hstep : afterKeyword? keyword text = some after ↔
      ∃ rest, text = keyword ++ rest ∧ ∃ c more, rest = c :: more ∧ isBlank c = true ∧
        trimStart more = after := by
    unfold afterKeyword?
    split
    · next c more hkeyword =>
      rw [List.isPrefixOf?_eq_some_iff_append_eq] at hkeyword
      subst hkeyword
      simp
    · next hkeyword =>
      simp only [reduceCtorEq, false_iff, not_exists, not_and]
      rintro rest rfl c more rfl
      exact absurd (List.isPrefixOf?_eq_some_iff_append_eq.mpr rfl) (hkeyword c more)
  simp only [hstep, gap_iff]
  constructor
  · rintro ⟨rest, rfl, gap, hgap, rfl, hafter⟩
    exact ⟨gap, hgap, rfl, hafter⟩
  · rintro ⟨gap, hgap, rfl, hafter⟩
    exact ⟨gap ++ after, rfl, gap, hgap, rfl, hafter⟩

/-- **The longest name** at the start of a text: a name that what follows does not go on with.

**Proof sketch.** A name is a first character and all word characters that follow it.  If no word
character stands behind a name, it is the longest one. -/
lemma name?_eq_some_iff (text name rest : List Char) :
    name? text = some (name, rest) ↔
      text = name ++ rest ∧ IsName name ∧ startsWithWordChar rest = false := by
  constructor
  · intro h
    cases text with
    | nil => simp [name?] at h
    | cons c more =>
      rw [name?] at h
      split_ifs at h with hc
      obtain ⟨rfl, rfl⟩ := Prod.mk.inj (Option.some.inj h)
      refine ⟨?_, ⟨hc, List.all_takeWhile⟩, any_head?_dropWhile more⟩
      rw [List.cons_append, List.takeWhile_append_dropWhile]
  · rintro ⟨rfl, hname, hrest⟩
    cases name with
    | nil => exact absurd hname.1 (by decide)
    | cons c more =>
      obtain ⟨hstart, hmore⟩ : isNameStart c = true ∧ more.all isWordChar = true := hname
      rw [List.cons_append, name?, if_pos hstart, takeWhile_run hmore hrest,
        dropWhile_run hmore hrest]

/-- A name does not begin with a blank.

**Proof sketch.** A letter or an underscore lies between the capital A and the small z, and no range
of blanks meets that one. -/
lemma isBlank_of_isNameStart {c : Char} (h : isNameStart c = true) : isBlank c = false := by
  have halpha : c.isAlpha = (c.isUpper || c.isLower) := rfl
  have hbounds : 65 ≤ c.toNat ∧ c.toNat ≤ 122 := by
    rw [isNameStart, halpha, Bool.or_eq_true, Bool.or_eq_true, isUpper_iff, isLower_iff,
      beq_iff_eq] at h
    rcases h with (hcapital | hsmall) | rfl
    · omega
    · omega
    · decide
  -- all characters between the first and the last letter, which no blank lies among
  have hletters : inRanges c.toNat [(65, 122)] = true := by
    simp only [inRanges, if_neg (Nat.not_lt.mpr hbounds.1), hbounds.2, decide_true, Bool.true_or]
  exact inRanges_eq_false_of_apart (by decide) hletters

/-- Names do not begin with a blank. -/
lemma head?_of_isName {name : List Char} (h : IsName name) (rest : List Char) :
    (name ++ rest).head?.any isBlank = false := by
  cases name with
  | nil => exact absurd h.1 (by decide)
  | cons c more => exact isBlank_of_isNameStart h.1

/-- A gap does not begin with a character of a word. -/
lemma startsWithWordChar_gap {gap : List Char} (h : IsGap gap) (after : List Char) :
    startsWithWordChar (gap ++ after) = false := by
  obtain ⟨hne, hall⟩ := h
  cases gap with
  | nil => exact absurd rfl hne
  | cons c more =>
    rw [isBlankText, List.all_cons, Bool.and_eq_true] at hall
    exact isWordChar_of_isBlank hall.1

/-! ## Annotations -/

/-- **An argument list** at the start of a text is passed over, if there is one.

**Proof sketch.** By whether the text begins with an opening bracket and whether a closing one
follows.  Only in this case is anything passed over, up to the first closing bracket. -/
lemma exists_skipArguments (text : List Char) :
    ∃ arguments, (∀ inner ∈ arguments, ')' ∉ inner) ∧
      text = argumentText arguments ++ skipArguments text := by
  fun_cases skipArguments text with
  | case1 rest c after hclosing =>
    have hstop : (rest.dropWhile (· != ')')).head?.any (· != ')') = false :=
      any_head?_dropWhile rest
    have hsplit := List.takeWhile_append_dropWhile (p := (· != ')')) (l := rest)
    rw [hclosing] at hstop hsplit
    obtain rfl : c = ')' := by simpa using hstop
    refine ⟨some (rest.takeWhile (· != ')')), ?_, ?_⟩
    · rintro inner hinner hmem
      obtain rfl := Option.mem_some_iff.mp hinner
      simpa using List.mem_takeWhile_imp hmem
    · rw [argumentText, List.cons_append, List.append_assoc, List.singleton_append, hsplit]
  | case2 rest hopen => exact ⟨none, by simp, rfl⟩
  | case3 hnone => exact ⟨none, by simp, rfl⟩

/-- Arguments in brackets are passed over.

**Proof sketch.** Without arguments the rest does not begin with an opening bracket, so nothing is
passed over.  With arguments the first closing bracket is the one behind them. -/
lemma skipArguments_argumentText {arguments : Option (List Char)}
    (h : ∀ inner ∈ arguments, ')' ∉ inner) {rest : List Char} (hrest : rest.head? ≠ some '(') :
    skipArguments (argumentText arguments ++ rest) = rest := by
  cases arguments with
  | none =>
    unfold skipArguments
    split
    · next more heq =>
      obtain rfl : rest = '(' :: more := heq
      exact absurd rfl hrest
    · rfl
  | some inner =>
    have hinner : inner.all (· != ')') = true := by
      rw [List.all_eq_true]
      intro c hc
      rw [bne_iff_ne]
      rintro rfl
      exact h inner rfl hc
    have hdrop : (inner ++ ([')'] ++ rest)).dropWhile (· != ')') = [')'] ++ rest :=
      dropWhile_run hinner rfl
    rw [argumentText, List.cons_append, List.append_assoc, skipArguments, hdrop]
    rfl

/-- **What follows an annotation** begins with no blank.

**Proof sketch.** What is read is a sign, a word, arguments if there are any, and a gap, each taken
as far as it goes.  Conversely each part of an annotation ends where it should: the word before a
bracket or a blank, the arguments at their closing bracket, and the gap before what is no blank. -/
lemma afterAnnotation?_eq_some_iff (text after : List Char) :
    afterAnnotation? text = some after ↔
      ∃ a : Annotation, text = a.text ++ after ∧ after.head?.any isBlank = false := by
  constructor
  · intro h
    unfold afterAnnotation? at h
    split at h
    · next rest =>
      split_ifs at h with hword
      obtain ⟨arguments, hclosed, harguments⟩ := exists_skipArguments (rest.dropWhile isWordChar)
      split at h
      · next c tail htail =>
        split_ifs at h with hblank
        obtain ⟨gap, hgap, hsplit, hafter⟩ :=
          (gap_iff (c :: tail) after).mp ⟨c, tail, rfl, hblank, Option.some.inj h⟩
        have hne : rest.takeWhile isWordChar ≠ [] := by
          cases rest with
          | nil => simp [startsWithWordChar] at hword
          | cons d more =>
            have hd : isWordChar d = true := hword
            simp [hd]
        let a : Annotation := ⟨_, arguments, gap, hne, List.all_takeWhile, hclosed, hgap⟩
        refine ⟨a, ?_, hafter⟩
        rw [a.text_append, ← hsplit, ← htail, ← harguments, List.takeWhile_append_dropWhile]
      · cases h
    · cases h
  · rintro ⟨a, rfl, hafter⟩
    have hword : startsWithWordChar (a.word ++ (argumentText a.arguments ++ (a.gap ++ after))) =
        true :=
      any_head?_append a.word_ne_nil a.all_word _
    have hends : startsWithWordChar (argumentText a.arguments ++ (a.gap ++ after)) = false := by
      cases a.arguments with
      | none => exact startsWithWordChar_gap a.isGap after
      | some inner =>
        have hopening : isWordChar '(' = false := by decide +kernel
        exact hopening
    obtain ⟨c, tail, htail, hblank, htrim⟩ :=
      (gap_iff (a.gap ++ after) after).mpr ⟨_, a.isGap, rfl, hafter⟩
    have hparenthesis : (a.gap ++ after).head? ≠ some '(' := by
      rw [htail, List.head?_cons]
      intro heq
      exact ne_of_isBlank hblank (by decide) (Option.some.inj heq)
    rw [a.text_append, afterAnnotation?, if_pos hword, dropWhile_run a.all_word hends,
      skipArguments_argumentText a.closed hparenthesis, htail]
    simp [hblank, htrim]

/-- Annotations are written one behind the other. -/
lemma annotationText_cons (a : Annotation) (more : List Annotation) (rest : List Char) :
    annotationText (a :: more) ++ rest = a.text ++ (annotationText more ++ rest) := by
  rw [annotationText, List.flatMap_cons, List.append_assoc, annotationText]

/-- Annotations do not begin with a blank. -/
lemma head?_annotationText {rest : List Char} (hrest : rest.head?.any isBlank = false)
    (annotations : List Annotation) :
    (annotationText annotations ++ rest).head?.any isBlank = false := by
  cases annotations with
  | nil => exact hrest
  | cons a more =>
    rw [annotationText_cons, a.text_append]
    rfl

/-- **All annotations are passed over**, and what follows them is read as if they were not there.

**Proof sketch.** Induction on the annotations.  What follows the first one begins with no blank, so
it is passed over as a whole. -/
lemma skipAnnotations_annotationText {rest : List Char} (hrest : rest.head?.any isBlank = false)
    (annotations : List Annotation) :
    skipAnnotations (annotationText annotations ++ rest) = skipAnnotations rest := by
  induction annotations with
  | nil => rfl
  | cons a more ih =>
    have hafter : afterAnnotation? (annotationText (a :: more) ++ rest) =
        some (annotationText more ++ rest) :=
      (afterAnnotation?_eq_some_iff _ _).mpr
        ⟨a, annotationText_cons a more rest, head?_annotationText hrest more⟩
    rw [skipAnnotations, hafter]
    exact ih

/-- Whatever a text is, annotations stand before what is left of it.

**Proof sketch.** Induction along the passing over: each step passes over one annotation. -/
lemma exists_annotations (text : List Char) :
    ∃ annotations, text = annotationText annotations ++ skipAnnotations text := by
  fun_induction skipAnnotations text with
  | case1 text after hafter ih =>
    obtain ⟨a, htext, -⟩ := (afterAnnotation?_eq_some_iff _ _).mp hafter
    obtain ⟨annotations, hannotations⟩ := ih
    refine ⟨a :: annotations, ?_⟩
    rw [annotationText_cons, ← hannotations, htext]
  | case2 text hnone => exact ⟨[], rfl⟩

/-! ## Declarations -/

/-- A text without line feeds is a single line. -/
lemma singleLine?_of_not_mem {rest : List Char} (h : '\n' ∉ rest) :
    singleLine? rest = some rest := by
  have hdrop : rest.dropWhile (· != '\n') = [] := by
    rw [List.dropWhile_eq_nil_iff]
    intro c hc
    rw [bne_iff_ne]
    rintro rfl
    exact h hc
  rw [singleLine?, hdrop]

/-- The text of a declaration, as the recogniser of its keyword sees it. -/
lemma skipAnnotations_text (d : VariableLine) :
    skipAnnotations d.text = "var".toList ++ (d.gap ++ (d.name ++ d.remainder)) := by
  have hkeyword : ("var".toList ++ (d.gap ++ (d.name ++ d.remainder))).head?.any isBlank =
      false := by
    simp [isBlank, inRanges, blankRanges]
  rw [VariableLine.text, skipAnnotations_annotationText hkeyword, skipAnnotations]
  rfl

/-- **What is recognised as a declaration** on a single line: its name, and the remainder without
the blanks in front.

**Proof sketch.** The recogniser passes over all annotations there are, so the keyword can only
stand where the grammar has it; blanks and names are taken as long as possible, and neither can be
followed by a character that would prolong it. -/
theorem variableDeclaration?_eq_some_iff {text : List Char} (h : '\n' ∉ text)
    (name rest : List Char) :
    variableDeclaration? text = some (name, rest) ↔
      ∃ d : VariableLine, d.text = text ∧ d.name = name ∧ trimStart d.remainder = rest := by
  have hrest {d : VariableLine} (hd : d.text = text) : '\n' ∉ trimStart d.remainder := by
    intro hmem
    apply h
    rw [← hd, VariableLine.text]
    simp [(List.dropWhile_sublist isBlank).subset hmem]
  constructor
  · intro hfound
    obtain ⟨annotations, htext⟩ := exists_annotations text
    unfold variableDeclaration? at hfound
    split at hfound
    · next found remainder hbound =>
      obtain ⟨after, hkeyword, hname⟩ := Option.bind_eq_some_iff.mp hbound
      obtain ⟨gap, hgap, hskip, -⟩ := (afterKeyword?_eq_some_iff _ _ _).mp hkeyword
      obtain ⟨rfl, hisName, hends⟩ := (name?_eq_some_iff _ _ _).mp hname
      have hd : (VariableLine.mk annotations gap found remainder hgap hisName hends).text =
          text := by
        rw [VariableLine.text, ← hskip, ← htext]
      rw [singleLine?_of_not_mem (hrest hd)] at hfound
      obtain ⟨rfl, rfl⟩ := Prod.mk.inj (Option.some.inj hfound)
      exact ⟨_, hd, rfl, rfl⟩
    · cases hfound
  · rintro ⟨d, rfl, rfl, rfl⟩
    have hkeyword : afterKeyword? "var".toList (skipAnnotations d.text) =
        some (d.name ++ d.remainder) :=
      (afterKeyword?_eq_some_iff _ _ _).mpr
        ⟨d.gap, d.isGap, skipAnnotations_text d, head?_of_isName d.isName d.remainder⟩
    have hname : name? (d.name ++ d.remainder) = some (d.name, d.remainder) :=
      (name?_eq_some_iff _ _ _).mpr ⟨rfl, d.isName, d.name_ends⟩
    rw [variableDeclaration?, hkeyword, Option.bind_some, hname]
    simp only [singleLine?_of_not_mem (hrest rfl), Option.map_some]

end ScriptAudit.Script

namespace ScriptAudit.LineCheck

open Text Script

/-- The check of types reports a declared variable whose name no colon follows.

**Proof sketch.** A line declares at most one variable, and it is reported unless a colon is the
first character behind its name. -/
lemma judgeType_eq_some_iff (text : List Char) (finding : Finding) :
    judgeType text = some finding ↔
      ∃ name rest, variableDeclaration? text = some (name, rest) ∧ rest.head? ≠ some ':' ∧
        finding = ⟨.info, "Variable '" ++ String.ofList name ++ "' has no type hint"⟩ := by
  unfold judgeType
  split
  · next hnone => simp [hnone]
  · next name rest hfound =>
    constructor
    · intro h
      split_ifs at h with hcolon
      exact ⟨name, rest, hfound, by simpa using hcolon, (Option.some.inj h).symm⟩
    · rintro ⟨declared, remainder, hagain, hcolon, rfl⟩
      obtain ⟨rfl, rfl⟩ := Prod.mk.inj (Option.some.inj (hfound.symm.trans hagain))
      rw [if_neg (by simpa using hcolon)]

/-- Annotations in front of a text do not matter, unless blanks stand between them and the text. -/
lemma judgeType_annotationText {text : List Char} (h : text.head?.any isBlank = false)
    (annotations : List Annotation) :
    judgeType (annotationText annotations ++ text) = judgeType text := by
  rw [judgeType, variableDeclaration?, skipAnnotations_annotationText h, judgeType,
    variableDeclaration?]

/-- A text that is trimmed stays so with annotations in front. -/
lemma trim_annotationText {raw : List Char} (h : trim raw ≠ []) (annotations : List Annotation) :
    trim (annotationText annotations ++ trim raw) = annotationText annotations ++ trim raw := by
  have hend : trimEnd (trim raw) = trim raw := trimEnd_trimEnd _
  have hblank : isBlankText (trim raw) = false := by
    rw [ne_eq, trim_eq_nil_iff, Bool.not_eq_true] at h
    rwa [trim, isBlankText_trimEnd, isBlankText_trimStart]
  rw [trim, trimStart_of_head? (head?_annotationText (head?_trim raw) annotations),
    trimEnd_append_of_not_blank hblank, hend]

/-- **The check for missing types accepts exactly its grammar.**  On a line without line feed it
reports a variable if the line, without the blanks around it, is a declaration whose name is not
followed by a colon, and the report names the declared variable.  Whatever is not blank may have
annotations put in front, without any change to what is reported.

**Proof sketch.** The line has no line feed, so the reader of declarations takes exactly the
declarations of the grammar.  It passes over annotations that stand in front, and trimming leaves
them where they are. -/
theorem judge_missingTypeHint_iff (settings : Settings) (line : Line) (h : '\n' ∉ line.raw) :
    (∀ finding, judge settings line .missingTypeHint = some finding ↔
      ∃ d : VariableLine, d.text = line.text ∧ d.IsUntyped ∧
        finding = ⟨.info, "Variable '" ++ String.ofList d.name ++ "' has no type hint"⟩) ∧
    (line.text ≠ [] → ∀ annotations : List Annotation,
      judge settings ⟨line.number, annotationText annotations ++ line.text⟩ .missingTypeHint =
        judge settings line .missingTypeHint) := by
  have htext : '\n' ∉ line.text := fun hmem => h (mem_of_mem_trim hmem)
  refine ⟨fun finding => ?_, fun hne annotations => ?_⟩
  · rw [judge, judgeType_eq_some_iff]
    simp only [variableDeclaration?_eq_some_iff htext]
    constructor
    · rintro ⟨name, rest, ⟨d, hd, rfl, rfl⟩, huntyped, rfl⟩
      exact ⟨d, hd, huntyped, rfl⟩
    · rintro ⟨d, hd, huntyped, rfl⟩
      exact ⟨d.name, _, ⟨d, hd, rfl, rfl⟩, huntyped, rfl⟩
  · have htrim : (Line.mk line.number (annotationText annotations ++ line.text)).text =
        annotationText annotations ++ line.text := trim_annotationText hne annotations
    rw [judge, judge, htrim]
    exact judgeType_annotationText (head?_trim line.raw) annotations

/-- An annotation whose arguments look like a declaration with a type. -/
def looksTyped : Annotation where
  word := "export_range".toList
  arguments := some "0, 'var a: int'".toList
  gap := " ".toList
  word_ne_nil := by decide +kernel
  all_word := by decide +kernel
  closed := by decide +kernel
  isGap := by decide +kernel

/-- A declaration behind such an annotation, with a tab behind the keyword and a colon in a
comment. -/
def looksTypedLine : VariableLine where
  annotations := [looksTyped]
  gap := "\t".toList
  name := "speed_2".toList
  remainder := " = 1 # : int".toList
  isGap := by decide +kernel
  isName := by decide +kernel
  name_ends := by decide +kernel

/-- The declaration on an indented line. -/
def looksTypedScript : Line :=
  ⟨3, "\t@export_range(0, 'var a: int') var\tspeed_2 = 1 # : int".toList⟩

/-- Colons elsewhere in a line are not taken for the one behind the name, and another annotation in
front changes nothing. -/
theorem judge_missingTypeHint_looksTyped :
    '\n' ∉ looksTypedScript.raw ∧ looksTypedScript.text ≠ [] ∧
      judge {} looksTypedScript .missingTypeHint =
        some ⟨.info, "Variable 'speed_2' has no type hint"⟩ ∧
      judge {} ⟨3, annotationText [looksTyped] ++ looksTypedScript.text⟩ .missingTypeHint =
        some ⟨.info, "Variable 'speed_2' has no type hint"⟩ := by
  have hfeed : '\n' ∉ looksTypedScript.raw := by decide +kernel
  have hne : looksTypedScript.text ≠ [] := by decide +kernel
  have htext : looksTypedLine.text = looksTypedScript.text := by decide +kernel
  have huntyped : looksTypedLine.IsUntyped := by decide +kernel
  have hmessage : "Variable '" ++ String.ofList looksTypedLine.name ++ "' has no type hint" =
      "Variable 'speed_2' has no type hint" := by decide +kernel
  obtain ⟨hreport, hfront⟩ := judge_missingTypeHint_iff {} looksTypedScript hfeed
  have hfound := (hreport _).mpr ⟨looksTypedLine, htext, huntyped, rfl⟩
  rw [hmessage] at hfound
  exact ⟨hfeed, hne, hfound, (hfront hne [looksTyped]).trans hfound⟩

end ScriptAudit.LineCheck
