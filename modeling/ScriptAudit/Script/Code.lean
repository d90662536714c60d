import ScriptAudit.Text.Blank

/-!
# The code part of a line

What a line says as code is read after its string literals have been emptied and its comment has
been cut off.  Emptying comes first, so a number sign inside a literal does not begin a comment, and
quotes inside a comment do no harm once the comment is gone.

A literal runs from a quote to the next quote of the same kind.  Inside it a backslash takes the
character behind it along, except a line feed.  A quote that opens no complete literal is an
ordinary character.

## Main definitions

* `ScriptAudit.Script.closing?` — what follows a literal, given the text behind its opening quote.
* `ScriptAudit.Script.emptyLiterals` — a text with the contents of its literals removed.
* `ScriptAudit.Script.code` — the code part of a line.
* `ScriptAudit.Script.isComment` — whether a trimmed line is a comment as a whole.

## Main results

* `ScriptAudit.Script.length_lt_of_closing?` — a literal takes at least its closing quote; this is
  why `emptyLiterals` ends.
-/

set_option autoImplicit false

namespace ScriptAudit.Script

open Text

/-- Whether a character opens a string literal. -/
def isQuote (c : Char) : Bool := c == '"' || c == '\''

/-- The text behind the quote that closes a literal, given the text behind the quote that opened
it; `none` if the literal is never closed. -/
def closing? (quote : Char) : List Char → Option (List Char)
  | [] => none
  | '\\' :: c :: rest => if c = '\n' then none else closing? quote rest
  | c :: rest => if c = quote then some rest else if c = '\\' then none else closing? quote rest

/-- What follows a literal is shorter than the text behind its opening quote. -/
theorem length_lt_of_closing? {quote : Char} {s rest : List Char}
    (h : closing? quote s = some rest) : rest.length < s.length := by
  fun_induction closing? quote s with
  | case1 => simp at h
  | case2 => simp at h
  | case3 c tail hc ih =>
    have := ih h
    simp only [List.length_cons]
    omega
  | case4 tail =>
    cases h
    simp
  | case5 => simp at h
  | case6 c tail _ _ _ ih =>
    have := ih h
    simp only [List.length_cons]
    omega

/-- The text with every complete string literal replaced by its two quotes. -/
def emptyLiterals : List Char → List Char
  | [] => []
  | c :: rest =>
    if isQuote c then
      match _h : closing? c rest with
      | some after => c :: c :: emptyLiterals after
      | none => c :: emptyLiterals rest
    else c :: emptyLiterals rest
termination_by s => s.length
decreasing_by
  · have := length_lt_of_closing? _h
    simp only [List.length_cons]
    omega
  · simp
  · simp

/-- The code part of a line: literals emptied, the comment cut off, trailing blanks removed. -/
def code (text : List Char) : List Char :=
  trimEnd ((emptyLiterals text).takeWhile (· != '#'))

/-- Whether a trimmed line is a comment as a whole. -/
def isComment (text : List Char) : Bool := text.head? == some '#'

end ScriptAudit.Script
