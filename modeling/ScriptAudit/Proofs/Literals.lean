import Mathlib.Data.List.Basic
import Mathlib.Data.List.TakeWhile
import Mathlib.Tactic.Common
import ScriptAudit.Script.Code

/-!
# Literals and comments

The code part of a line is found without a lexer: literals are emptied throughout the line, whatever
stands in its comment, and only then is the comment looked for.  Here a line is given by its pieces,
the way it is meant to be read: chunks of code, complete string literals, and perhaps a comment.  On
such lines emptying and cutting do what is meant.  No number sign in a literal begins a comment, no
quote in a comment opens a literal that matters, and neither kind of quote is closed by the other.

## Main definitions

* `ScriptAudit.Script.Content` — what may stand between the quotes of a literal.
* `ScriptAudit.Script.Piece` — chunks and literals; `Piece.written` is the text of some pieces,
  `Piece.bare` the same text without the contents of the literals.
* `ScriptAudit.Script.PieceLine` — a line in pieces.

## Main results

* `ScriptAudit.Script.emptyLiterals_written_append` — emptying literals goes piece by piece.
* `ScriptAudit.Script.code_text` — the code part of a line is what its pieces say.
* `ScriptAudit.Script.code_trimEnd` — blanks behind a line make no difference to its code part.
-/

set_option relaxedAutoImplicit false
set_option autoImplicit false

namespace ScriptAudit.Script

open Text

/-! ## Pieces of a line -/

/-- **The content of a literal.**  The closing quote and the backslash occur only behind a
backslash.  What a backslash takes along is any character that can stand on a line. -/
inductive Content (quote : Char) : List Char → Prop where
  | nil : Content quote []
  | plain {c : Char} {rest : List Char} (hquote : c ≠ quote) (hbackslash : c ≠ '\\')
      (hrest : Content quote rest) : Content quote (c :: rest)
  | escape {c : Char} {rest : List Char} (hfeed : c ≠ '\n') (hrest : Content quote rest) :
      Content quote ('\\' :: c :: rest)

/-- Without the quote itself and without backslashes, any text can stand in a literal. -/
lemma Content.of_all {quote : Char} {s : List Char}
    (h : s.all (fun c => c != quote && c != '\\') = true) :
    Content quote s := by
  induction s with
  | nil => exact .nil
  | cons c rest ih =>
    simp only [List.all_cons, Bool.and_eq_true, bne_iff_ne] at h
    exact .plain h.1.1 h.1.2 (ih (by simpa using h.2))

/-- A complete string literal, in quotes of either kind. -/
structure Literal where
  /-- The quote on both sides. -/
  quote : Char
  /-- What stands between the quotes. -/
  content : List Char
  isQuote_quote : isQuote quote = true
  content_closed : Content quote content

/-- The literal without its content. -/
def Literal.emptied (l : Literal) : Literal := ⟨l.quote, [], l.isQuote_quote, .nil⟩

/-- Whether a character neither opens a literal nor begins a comment. -/
def isPlain (c : Char) : Bool := !isQuote c && c != '#'

/-- A piece of a line: a chunk of code without quotes and number signs, or a literal. -/
inductive Piece where
  | chunk (text : List Char) (plain : text.all isPlain = true)
  | literal (literal : Literal)

namespace Piece

/-- The text of a piece. -/
def text : Piece → List Char
  | chunk text _ => text
  | literal l => l.quote :: (l.content ++ [l.quote])

/-- The piece without the content of its literal. -/
def emptied : Piece → Piece
  | chunk text plain => chunk text plain
  | literal l => literal l.emptied

/-- The text of some pieces, one behind the other. -/
def written (pieces : List Piece) : List Char := pieces.flatMap text

/-- The text of some pieces without the contents of their literals. -/
def bare (pieces : List Piece) : List Char := written (pieces.map emptied)

/-- Pieces are written one behind the other. -/
lemma written_cons (piece : Piece) (pieces : List Piece) :
    written (piece :: pieces) = piece.text ++ written pieces := List.flatMap_cons

/-- Pieces with emptied literals are written one behind the other. -/
lemma bare_cons (piece : Piece) (pieces : List Piece) :
    bare (piece :: pieces) = piece.emptied.text ++ bare pieces := List.flatMap_cons

/-- There is nothing left to take out of emptied literals. -/
lemma bare_map_emptied (pieces : List Piece) : bare (pieces.map emptied) = bare pieces := by
  have hagain : emptied ∘ emptied = emptied := by
    funext piece
    cases piece <;> rfl
  rw [bare, bare, List.map_map, hagain]

end Piece

/-- A line in pieces, and the comment behind them if there is one. -/
structure PieceLine where
  /-- The chunks and literals. -/
  pieces : List Piece
  /-- What stands behind the number sign. -/
  comment : Option (List Char)

/-- The text of a line. -/
def PieceLine.text (line : PieceLine) : List Char :=
  match line.comment with
  | none => Piece.written line.pieces
  | some comment => Piece.written line.pieces ++ '#' :: comment

/-! ## Emptying literals -/

/-- A quote is not a backslash. -/
lemma ne_backslash_of_isQuote {quote : Char} (h : isQuote quote = true) : quote ≠ '\\' := by
  rintro rfl
  simp [isQuote] at h

/-- A literal ends with the quote behind its content.

**Proof sketch.** Induction on the content: neither a plain character nor an escaped one ends the
literal. -/
lemma closing?_content {quote : Char} (hquote : isQuote quote = true) {content : List Char}
    (h : Content quote content) (rest : List Char) :
    closing? quote (content ++ quote :: rest) = some rest := by
  induction h with
  | nil => simp [closing?, ne_backslash_of_isQuote hquote]
  | plain hc hbackslash _ ih => simp [closing?, hc, hbackslash, ih]
  | escape hfeed _ ih => simp [closing?, hfeed, ih]

/-- A character that is no quote stays as it is. -/
lemma emptyLiterals_cons {c : Char} (h : isQuote c = false) (rest : List Char) :
    emptyLiterals (c :: rest) = c :: emptyLiterals rest := by
  rw [emptyLiterals, if_neg (by simp [h])]

/-- A literal that is closed loses what stands before its closing quote. -/
lemma emptyLiterals_of_closed {quote : Char} (hquote : isQuote quote = true)
    {rest after : List Char} (h : closing? quote rest = some after) :
    emptyLiterals (quote :: rest) = quote :: quote :: emptyLiterals after := by
  rw [emptyLiterals, if_pos hquote]
  split
  · next found hfound =>
    rw [h, Option.some_inj] at hfound
    rw [hfound]
  · next hnone => simp [h] at hnone

/-- A quote that opens no complete literal stays as it is. -/
lemma emptyLiterals_of_unclosed {quote : Char} (hquote : isQuote quote = true) {rest : List Char}
    (h : closing? quote rest = none) :
    emptyLiterals (quote :: rest) = quote :: emptyLiterals rest := by
  rw [emptyLiterals, if_pos hquote]
  split
  · next found hfound => simp [h] at hfound
  · rfl

/-- A literal loses its content. -/
lemma emptyLiterals_literal (l : Literal) (rest : List Char) :
    emptyLiterals (l.quote :: (l.content ++ l.quote :: rest)) =
      l.quote :: l.quote :: emptyLiterals rest :=
  emptyLiterals_of_closed l.isQuote_quote (closing?_content l.isQuote_quote l.content_closed rest)

/-- A chunk stays as it is. -/
lemma emptyLiterals_chunk {text : List Char} (h : text.all isPlain = true) (rest : List Char) :
    emptyLiterals (text ++ rest) = text ++ emptyLiterals rest := by
  induction text with
  | nil => rfl
  | cons c more ih =>
    rw [List.all_cons, Bool.and_eq_true] at h
    have hc : isQuote c = false := by
      have hplain := h.1
      simp only [isPlain, Bool.and_eq_true, Bool.not_eq_true'] at hplain
      exact hplain.1
    rw [List.cons_append, emptyLiterals_cons hc, ih h.2, List.cons_append]

/-- **Emptying literals goes piece by piece**, whatever follows the pieces.

**Proof sketch.** Induction on the pieces.  A chunk holds no quote and is passed over, and a literal
is closed by its own closing quote. -/
theorem emptyLiterals_written_append (pieces : List Piece) (rest : List Char) :
    emptyLiterals (Piece.written pieces ++ rest) = Piece.bare pieces ++ emptyLiterals rest := by
  induction pieces with
  | nil => rfl
  | cons piece more ih =>
    rw [Piece.written_cons, Piece.bare_cons, List.append_assoc, List.append_assoc, ← ih]
    cases piece with
    | chunk text plain => exact emptyLiterals_chunk plain _
    | literal l =>
      simp only [Piece.text, Piece.emptied, Literal.emptied, List.cons_append, List.append_assoc,
        List.nil_append]
      exact emptyLiterals_literal l _

/-! ## Blanks at the end of a text -/

section Blanks

variable {blanks : List Char} (h : isBlankText blanks = true)
include h

/-- Blanks are neither quotes nor number signs. -/
lemma all_isPlain_blanks : blanks.all isPlain = true := by
  rw [List.all_eq_true]
  intro c hc
  have hne {d : Char} (hd : isBlank d = false) : c ≠ d :=
    ne_of_isBlank (List.all_eq_true.mp h c hc) hd
  simp [isPlain, isQuote, hne (d := '"') (by decide), hne (d := '\'') (by decide),
    hne (d := '#') (by decide)]

/-- Blanks close no literal.

**Proof sketch.** Induction on the blanks.  A blank is neither a backslash nor a quote. -/
lemma closing?_blanks {quote : Char} (hquote : isQuote quote = true) :
    closing? quote blanks = none := by
  induction blanks with
  | nil => rfl
  | cons c rest ih =>
    rw [isBlankText, List.all_cons, Bool.and_eq_true] at h
    have hbackslash : c ≠ '\\' := ne_of_isBlank h.1 (by decide)
    have hclose : c ≠ quote := by
      rintro rfl
      simp only [isQuote, Bool.or_eq_true, beq_iff_eq] at hquote
      rcases hquote with rfl | rfl <;> exact absurd h.1 (by decide)
    simp [closing?, hbackslash, hclose, ih h.2]

/-- No literal is closed by what follows the last character that is not blank.

**Proof sketch.** Induction along the search.  If it ends inside of the text, nothing changes.
Otherwise it goes on in the blanks, where nothing closes a literal, also not behind a backslash that
takes the first blank along. -/
lemma closing?_append_blanks {quote : Char} (hquote : isQuote quote = true) (s : List Char) :
    closing? quote (s ++ blanks) = (closing? quote s).map (· ++ blanks) := by
  have hbackslash := ne_backslash_of_isQuote hquote
  fun_induction closing? quote s with
  | case1 => exact closing?_blanks h hquote
  | case2 => simp [closing?]
  | case3 c rest hc ih => simp [closing?, hc, ih]
  | case4 rest => simp [closing?, hbackslash]
  | case5 rest hlast hclose =>
    -- a backslash at the end takes a blank along, and blanks close no literal
    cases rest with
    | cons c more => exact (hlast c more rfl rfl).elim
    | nil =>
      cases blanks with
      | nil => simp [closing?, hclose]
      | cons b more =>
        rw [isBlankText, List.all_cons, Bool.and_eq_true] at h
        simp [closing?, closing?_blanks h.2 hquote]
  | case6 c rest hlast hclose hother ih => simp [closing?, hclose, hother, ih]

/-- Blanks behind a text are not part of a literal.

**Proof sketch.** Induction along the emptying: a quote that is not closed in the text is not closed
by blanks either. -/
lemma emptyLiterals_append_blanks (s : List Char) :
    emptyLiterals (s ++ blanks) = emptyLiterals s ++ blanks := by
  fun_induction emptyLiterals s with
  | case1 =>
    have hchunk := emptyLiterals_chunk (all_isPlain_blanks h) []
    rwa [List.append_nil, emptyLiterals, List.append_nil] at hchunk
  | case2 c rest hc after hafter ih =>
    have hclosing := closing?_append_blanks h hc rest
    rw [hafter, Option.map_some] at hclosing
    rw [List.cons_append, emptyLiterals_of_closed hc hclosing, ih, List.cons_append,
      List.cons_append]
  | case3 c rest hc hnone ih =>
    have hclosing := closing?_append_blanks h hc rest
    rw [hnone, Option.map_none] at hclosing
    rw [List.cons_append, emptyLiterals_of_unclosed hc hclosing, ih, List.cons_append]
  | case4 c rest hc ih =>
    rw [List.cons_append, emptyLiterals_cons (by simpa using hc), ih, List.cons_append]

end Blanks

/-! ## The code part -/

/-- No comment begins in pieces whose literals are emptied.

**Proof sketch.** Chunks hold no number sign, and of a literal only the two quotes are left. -/
lemma bne_of_mem_bare {pieces : List Piece} {c : Char} (h : c ∈ Piece.bare pieces) :
    (c != '#') = true := by
  rw [Piece.bare, Piece.written, List.flatMap_map] at h
  obtain ⟨piece, -, hc⟩ := List.mem_flatMap.mp h
  cases piece with
  | chunk text plain =>
    have hplain := List.all_eq_true.mp plain c hc
    simp only [isPlain, Bool.and_eq_true] at hplain
    exact hplain.2
  | literal l =>
    obtain rfl : c = l.quote := by simpa [Piece.text, Piece.emptied, Literal.emptied] using hc
    have hquote := l.isQuote_quote
    rw [bne_iff_ne]
    intro hsign
    simp [isQuote, hsign] at hquote

/-- The code part of some pieces and of what follows them, which may be a comment. -/
lemma code_written_append (pieces : List Piece) (rest : List Char) :
    code (Piece.written pieces ++ rest) =
      trimEnd (Piece.bare pieces ++ (emptyLiterals rest).takeWhile (· != '#')) := by
  rw [code, emptyLiterals_written_append, List.takeWhile_append_of_pos fun _ => bne_of_mem_bare]

/-- The code part of some pieces. -/
lemma code_written (pieces : List Piece) :
    code (Piece.written pieces) = trimEnd (Piece.bare pieces) := by
  have h := code_written_append pieces []
  simpa [emptyLiterals] using h

/-- Blanks behind a line make no difference to its code.

**Proof sketch.** Blanks behind a text stay behind it when literals are emptied.  Either a number
sign before them cuts them off, or they are trimmed. -/
lemma code_append_blanks {blanks : List Char} (h : isBlankText blanks = true) (s : List Char) :
    code (s ++ blanks) = code s := by
  have hsign : ∀ c ∈ blanks, (c != '#') = true := by
    intro c hc
    rw [bne_iff_ne]
    exact ne_of_isBlank (List.all_eq_true.mp h c hc) (by decide)
  rw [code, emptyLiterals_append_blanks h, List.takeWhile_append, code]
  split
  · next hall =>
    have hnone : (emptyLiterals s).takeWhile (· != '#') = emptyLiterals s :=
      (List.takeWhile_prefix _).eq_of_length hall
    rw [List.takeWhile_eq_self_iff.mpr hsign, trimEnd_append_of_isBlankText h, hnone]
  · rfl

/-- Blanks at the end of a text are no code. -/
lemma code_trimEnd (s : List Char) : code (trimEnd s) = code s := by
  obtain ⟨blanks, hblanks, hs⟩ := exists_eq_trimEnd_append s
  conv_rhs => rw [hs, code_append_blanks hblanks]

/-- **The code part of a line** that is given in pieces: its literals lose their contents, its
comment is left out, and so are the blanks at its end. -/
theorem code_text (line : PieceLine) : code line.text = trimEnd (Piece.bare line.pieces) := by
  obtain ⟨pieces, comment⟩ := line
  cases comment with
  | none => exact code_written pieces
  | some comment =>
    -- the number sign is no quote, so emptying leaves it where the pieces end
    rw [PieceLine.text, code_written_append, emptyLiterals_cons (by decide)]
    simp

example : code "say('it\\'s # 1', \"a 'b\")  # don't \"".toList = "say('', \"\")".toList := by
  decide +kernel

end ScriptAudit.Script
