import Mathlib.Data.List.Basic
import ScriptAudit.Analysis.File

/-!
# Line endings

A script may end its lines with a line feed or with a carriage return and a line feed, and may mix
both.  When its lines were written down, each with an ending of either kind, reading finds exactly
these lines; so the endings make no difference to a report.  All other characters are left alone:
separators of other kinds, and carriage returns that stand elsewhere.

How many lines are read can be said of every text, also of one that was not written in this way: one
for each line feed, and one more if something stands behind the last of them.

## Main definitions

* `ScriptAudit.Script.LineEnding` — the two kinds of line endings.
* `ScriptAudit.Script.LineText` — what may stand on a line.
* `ScriptAudit.Script.Written` — lines written down, each with its ending; the last one may have
  none.

## Main results

* `ScriptAudit.Script.lines_ended`, `ScriptAudit.Script.lines_unended` — a line is read up to its
  ending, or up to the end of the text.
* `ScriptAudit.Script.length_lines` — the number of lines of a text.
* `ScriptAudit.Script.lines_written` — reading undoes writing, whatever the endings are.
-/

set_option relaxedAutoImplicit false
set_option autoImplicit false

namespace ScriptAudit.Script

/-! ## Lines written down -/

/-- How a line ends. -/
inductive LineEnding where
  | lineFeed
  | returnAndLineFeed
  deriving DecidableEq

/-- The characters of a line ending. -/
def LineEnding.text : LineEnding → List Char
  | .lineFeed => ['\n']
  | .returnAndLineFeed => ['\r', '\n']

/-- **What may stand on a line**: no line feed, and no carriage return at its end, where it would be
taken for a part of the ending. -/
structure LineText where
  chars : List Char
  no_feed : '\n' ∉ chars
  no_return : chars.getLast? ≠ some '\r'

/-- **Lines written down.**  Every line has an ending of its own; behind them one more line may
stand without an ending, if it is not empty. -/
structure Written where
  ended : List (LineText × LineEnding)
  unended : Option {line : LineText // line.chars ≠ []}

namespace Written

/-- The text that is written. -/
def text (w : Written) : List Char :=
  w.ended.flatMap (fun line => line.1.chars ++ line.2.text) ++ w.unended.elim [] (·.val.chars)

/-- The lines that are written, without their endings. -/
def lines (w : Written) : List (List Char) :=
  w.ended.map (·.1.chars) ++ (w.unended.map (·.val.chars)).toList

end Written

/-! ## Reading lines -/

/-- A character that begins no line ending belongs to the first line of the text. -/
lemma lines_cons_of_not_ending {c : Char} {rest : List Char} (hfeed : c ≠ '\n')
    (hreturn : c = '\r' → rest.head? ≠ some '\n') :
    lines (c :: rest) = (c :: (lines rest).headD []) :: (lines rest).tail := by
  rw [lines]
  · cases lines rest <;> rfl
  · exact hfeed
  · rintro more rfl rfl
    exact hreturn rfl rfl

/-- **A line is read up to its ending.**

**Proof sketch.** Induction on the line.  A carriage return in it is not the last character, and
what follows it on the line is no line feed, so it begins no ending. -/
lemma lines_ended {chars : List Char} (hfeed : '\n' ∉ chars) (hreturn : chars.getLast? ≠ some '\r')
    (ending : LineEnding) (rest : List Char) :
    lines (chars ++ ending.text ++ rest) = chars :: lines rest := by
  induction chars with
  | nil => cases ending <;> rfl
  | cons c more ih =>
    obtain ⟨hc, hmore⟩ : '\n' ≠ c ∧ '\n' ∉ more := by simpa using hfeed
    have hlast : more.getLast? ≠ some '\r' := by
      intro h
      simp [List.getLast?_cons, h] at hreturn
    have hinside : c = '\r' → (more ++ ending.text ++ rest).head? ≠ some '\n' := by
      rintro rfl hhead
      cases more with
      | nil => exact hreturn rfl
      | cons d tail =>
        obtain rfl : d = '\n' := by simpa using hhead
        exact hmore List.mem_cons_self
    rw [List.cons_append, List.cons_append, lines_cons_of_not_ending (Ne.symm hc) hinside,
      ih hmore hlast]
    rfl

/-- A line without an ending is read up to the end of the text.

**Proof sketch.** Induction on the characters.  None of them is a line feed, so no carriage return
stands before one, and no character ends the line. -/
lemma lines_unended {chars : List Char} (hfeed : '\n' ∉ chars) (hne : chars ≠ []) :
    lines chars = [chars] := by
  induction chars with
  | nil => exact absurd rfl hne
  | cons c more ih =>
    obtain ⟨hc, hmore⟩ : '\n' ≠ c ∧ '\n' ∉ more := by simpa using hfeed
    have hinside : c = '\r' → more.head? ≠ some '\n' :=
      fun _ hhead => hmore (List.mem_of_mem_head? hhead)
    rw [lines_cons_of_not_ending (Ne.symm hc) hinside]
    cases more with
    | nil => rfl
    | cons d tail => rw [ih hmore (List.cons_ne_nil d tail), List.headD_cons, List.tail_cons]

/-- A text is read as the lines that it was written from.

**Proof sketch.** Induction on the lines that have an ending.  Each is read up to it, and a last
line without one is read to the end of the text. -/
lemma lines_text (w : Written) : lines w.text = w.lines := by
  obtain ⟨ended, unended⟩ := w
  unfold Written.text Written.lines
  induction ended with
  | nil =>
    cases unended with
    | none => rfl
    | some last => exact lines_unended last.val.no_feed last.property
  | cons first rest ih =>
    rw [List.flatMap_cons, List.append_assoc, lines_ended first.1.no_feed first.1.no_return, ih]
    rfl

/-! ## Counting lines -/

/-- A text that is not empty has a line. -/
lemma lines_cons_ne_nil (c : Char) (rest : List Char) : lines (c :: rest) ≠ [] := by
  rw [lines.eq_def]
  split
  · next h => cases h
  · simp
  · simp
  · next h => split <;> simp

/-- Whether a text ends with a line feed is not decided by its first character, unless it has no
other. -/
lemma ends_cons_iff (c : Char) {rest : List Char} (hrest : rest ≠ []) :
    (c :: rest = [] ∨ (c :: rest).getLast? = some '\n') ↔
      (rest = [] ∨ rest.getLast? = some '\n') := by
  cases rest with
  | nil => exact absurd rfl hrest
  | cons d tail => simp

/-- **The number of lines** of a text: one for each line feed, and one more if the text does not end
with it.

**Proof sketch.** Induction along the reading.  A line ending in front adds a line and a line feed;
any other character belongs to the first line of the rest, and is a line of its own only if there is
no rest. -/
lemma length_lines (text : List Char) :
    (lines text).length =
      text.count '\n' + if text = [] ∨ text.getLast? = some '\n' then 0 else 1 := by
  fun_induction lines text with
  | case1 => rfl
  | case2 rest ih =>
    rw [List.length_cons, ih, List.count_cons_self]
    cases rest with
    | nil => simp
    | cons d tail =>
      simp only [ends_cons_iff '\n' (List.cons_ne_nil d tail)]
      omega
  | case3 rest ih =>
    rw [List.length_cons, ih, List.count_cons_of_ne (by decide), List.count_cons_self]
    cases rest with
    | nil => simp
    | cons d tail =>
      simp only [ends_cons_iff '\r' (List.cons_ne_nil '\n' (d :: tail)),
        ends_cons_iff '\n' (List.cons_ne_nil d tail)]
      omega
  | case4 c rest hfeed hreturn hnil ih =>
    cases rest with
    | nil =>
      have hc : c ≠ '\n' := hfeed
      simp [List.count_cons_of_ne hc, hc]
    | cons d tail => exact absurd hnil (lines_cons_ne_nil d tail)
  | case5 c rest hfeed hreturn line more hlines ih =>
    have hrest : rest ≠ [] := by
      rintro rfl
      cases hlines
    rw [hlines, List.length_cons] at ih
    simp only [ends_cons_iff c hrest]
    rw [List.length_cons, ih, List.count_cons_of_ne hfeed]

/-- **Reading undoes writing.**  The lines of a written text are those that were written, whatever
endings they were given, so texts with the same lines have the same report.  The number of lines of
any text is the number of its line feeds, and one more if it is not empty and does not end with a
line feed. -/
theorem lines_written :
    (∀ w : Written, lines w.text = w.lines) ∧
      (∀ w w' : Written, w.lines = w'.lines → ∀ settings file,
        FileReport.ofSource settings file (String.ofList w.text) =
          FileReport.ofSource settings file (String.ofList w'.text)) ∧
      ∀ text : List Char, (lines text).length =
        text.count '\n' + if text = [] ∨ text.getLast? = some '\n' then 0 else 1 := by
  refine ⟨lines_text, fun w w' hlines settings file => ?_, length_lines⟩
  unfold FileReport.ofSource
  rw [String.toList_ofList, String.toList_ofList, lines_text, lines_text, hlines]

/-- A line with a form feed and a carriage return in it. -/
def lineWithSeparators : LineText := ⟨"var a = \"\x0c\r\"".toList, by decide, by decide⟩

/-- A line with nothing on it. -/
def emptyLine : LineText := ⟨[], by decide, by decide⟩

/-- Three lines with endings of both kinds, the last one without. -/
def mixedEndings : Written where
  ended := [(lineWithSeparators, .returnAndLineFeed), (emptyLine, .lineFeed)]
  unended := some ⟨lineWithSeparators, by decide⟩

/-- The same lines, all ended by a line feed. -/
def lineFeeds : Written where
  ended :=
    [(lineWithSeparators, .lineFeed), (emptyLine, .lineFeed), (lineWithSeparators, .lineFeed)]
  unended := none

/-- Lines with different endings and with separators inside them are read like lines that end with
line feeds. -/
theorem lines_written_mixed :
    mixedEndings.lines = lineFeeds.lines ∧ mixedEndings.text ≠ lineFeeds.text ∧
      lines mixedEndings.text = [lineWithSeparators.chars, [], lineWithSeparators.chars] ∧
      FileReport.ofSource {} "a.gd" (String.ofList mixedEndings.text) =
        FileReport.ofSource {} "a.gd" (String.ofList lineFeeds.text) := by
  obtain ⟨hread, hreport, -⟩ := lines_written
  exact ⟨rfl, by decide, hread mixedEndings, hreport mixedEndings lineFeeds rfl {} "a.gd"⟩

end ScriptAudit.Script
