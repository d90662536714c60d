import Mathlib.Tactic.Common
import ScriptAudit.Function.Metrics
import ScriptAudit.Proofs.ParameterEntries

/-!
# Statements on the line of a signature

A function may have its only statement behind the colon of its signature.  The colon is looked for
in the code part of the line, behind the bracket that closes the parameter list.  So colons in type
hints and in dictionaries do not matter, nor do brackets, colons and number signs in literals, and
whatever stands behind the colon is read like a line of its own.

## Main results

* `ScriptAudit.Signature.code_ofParts` — the code part of a signature, from the parts of the
  signature.
* `ScriptAudit.Segment.doesNothing_iff` — when a function with no statement but `pass` in its body
  does nothing.
* `ScriptAudit.Signature.statement?_ofParts` — the statement is the code behind the colon.
-/

set_option relaxedAutoImplicit false
set_option autoImplicit false

namespace ScriptAudit

open Text Script

/-! ## The code part of a signature -/

namespace Signature

section Parts

variable {head result : List Char} (hhead : head.all isPlain = true)
  (hresult : result.all isPlain = true)
include hhead hresult

/-- **The code part of a signature.**  The literals in the parameter list are emptied, and what
stands behind the colon is read on its own.

**Proof sketch.** Everything up to the colon is a sequence of pieces.  The colon is not blank, so
trimming the end of the line trims what stands behind it. -/
lemma code_ofParts (pieces : List Piece) (behind : List Char) :
    code (trim (ofParts head (Piece.written pieces) (result ++ ':' :: behind))) =
      ofParts (trimStart head) (Piece.bare pieces) (result ++ ':' :: code behind) := by
  have hopen : (trimStart head ++ ['(']).all isPlain = true := by
    rw [List.all_append, Bool.and_eq_true]
    refine ⟨List.all_eq_true.mpr fun c hc => ?_, by decide⟩
    exact List.all_eq_true.mp hhead c ((List.dropWhile_suffix isBlank).subset hc)
  have hclose : (')' :: (result ++ [':'])).all isPlain = true := by
    rw [List.all_cons, List.all_append, hresult]
    decide
  have hcode := code_written_append (.chunk _ hopen :: (pieces ++ [.chunk _ hclose])) behind
  rw [trim, code_trimEnd, ofParts, ofParts, trimStart_append_cons (by decide)]
  simp only [Piece.written, Piece.bare, List.flatMap_cons, List.flatMap_append, List.map_cons,
    List.map_append, Piece.text, Piece.emptied, List.map_nil, List.flatMap_nil, List.append_nil,
    List.append_assoc, List.cons_append, List.nil_append] at hcode ⊢
  rw [hcode, trimEnd_append_cons (by decide), trimEnd_append_cons (by decide),
    trimEnd_append_cons (by decide)]
  rfl

end Parts

/-- What follows the parameter list of a text, if the list is balanced. -/
lemma parameterList?_ofParts {head : List Char} (hhead : '(' ∉ head) {list : List Char}
    (h : Balanced list)
    (tail : List Char) : parameterList? (ofParts head list tail) = some (list, some tail) := by
  have hscan := atClosing_append (show BalancedFrom (0 : Nat) list from h) (')' :: tail)
  rw [atClosing_zero_cons_closing rfl, List.append_nil] at hscan
  rw [ofParts, parameterList?_append hhead, hscan]

end Signature

/-! ## Functions that do nothing -/

/-- A function whose body holds nothing but `pass` does nothing, unless its signature has another
statement. -/
lemma Segment.doesNothing_iff {segment : Segment}
    (h : ∀ line ∈ segment.body, isBlankText line = true ∨ trim line = "pass".toList) :
    segment.doesNothing = true ↔
      ∀ statement ∈ Signature.statement? segment.signature, statement = "pass".toList := by
  have hbody : ((segment.body.map trim).filter (!·.isEmpty)).all (· == "pass".toList) = true := by
    rw [List.all_filter, List.all_map, List.all_eq_true]
    intro line hline
    rcases h line hline with hblank | hpass
    · simp [(trim_eq_nil_iff line).mpr hblank]
    · simp [hpass]
  rw [doesNothing, statements, List.all_append, hbody, Bool.true_and]
  simp

namespace Signature

section Statement

variable {head : List Char} (hopen : '(' ∉ head) (hhead : head.all isPlain = true)
  {pieces : List Piece} (hlist : Balanced (Piece.bare pieces))
  {result : List Char} (hcolon : ':' ∉ result) (hresult : result.all isPlain = true)
include hopen hhead hlist hcolon hresult

/-- Behind the colon of a signature stands a statement, unless there is no code.

**Proof sketch.** The search for the colon starts behind the bracket that closes the list of
parameters, and the result before the colon holds none. -/
lemma statement?_eq_code (behind : List Char) :
    statement? (ofParts head (Piece.written pieces) (result ++ ':' :: behind)) =
      if trim (code behind) = [] then none else some (trim (code behind)) := by
  have hstart : '(' ∉ trimStart head :=
    fun hmem => hopen ((List.dropWhile_suffix isBlank).subset hmem)
  have hskip : ∀ c ∈ result, (c != ':') = true := by
    intro c hc
    rw [bne_iff_ne]
    rintro rfl
    exact hcolon hc
  have hafter : ((result ++ ':' :: code behind).dropWhile (· != ':')).drop 1 = code behind := by
    rw [List.dropWhile_append_of_pos hskip]
    simp
  rw [statement?, code_ofParts hhead hresult, parameterList?_ofParts hstart hlist]
  simp only [hafter, List.isEmpty_iff]

/-- **The statement on the line of a signature** is the code behind the colon of the signature,
trimmed; there is none if that code is empty.  The head, which is the keyword and the name, and the
part between the parameter list and the colon hold no quotes and no number signs; literals in the
parameter list may hold anything.  So a function that has only blank lines and `pass` in its body
does nothing exactly if that code is empty or is `pass`. -/
theorem statement?_ofParts (behind : List Char) :
    statement? (ofParts head (Piece.written pieces) (result ++ ':' :: behind)) =
        (if trim (code behind) = [] then none else some (trim (code behind))) ∧
      ∀ segment : Segment,
        segment.signature = ofParts head (Piece.written pieces) (result ++ ':' :: behind) →
        (∀ line ∈ segment.body, isBlankText line = true ∨ trim line = "pass".toList) →
        (segment.doesNothing = true ↔ trim (code behind) = [] ∨
          trim (code behind) = "pass".toList) := by
  have hstatement := statement?_eq_code hopen hhead hlist hcolon hresult behind
  refine ⟨hstatement, fun segment hsignature hbody => ?_⟩
  rw [Segment.doesNothing_iff hbody, hsignature, hstatement]
  split
  · next hnil => simp [hnil]
  · next hne => simp [hne]

end Statement

/-- A double quote is a quote. -/
lemma isQuote_double : isQuote '"' = true := rfl

/-- An apostrophe is a quote. -/
lemma isQuote_single : isQuote '\'' = true := rfl

/-- Default values with brackets, colons and number signs in literals:
`a = {"):": [1]}, b = '# ('`. -/
def misleadingDefaults : List Piece :=
  [.chunk ("a = ".toList ++ ['{']) (by decide),
   .literal ⟨'"', "):".toList, isQuote_double, .of_all (by decide)⟩,
   .chunk (": [1]".toList ++ '}' :: ", b = ".toList) (by decide),
   .literal ⟨'\'', "# (".toList, isQuote_single, .of_all (by decide)⟩]

/-- The signature of a function that does nothing, with a comment behind its statement:
`func f(a = {"):": [1]}, b = '# (') -> int: pass  # it's "new":`. -/
def emptySignature : List Char :=
  ofParts "func f".toList (Piece.written misleadingDefaults)
    (" -> int".toList ++ ':' :: " pass  # it's \"new\":".toList)

/-- Neither the brackets, colons and number signs in the literals nor those in the comment mislead
the search, and the function does nothing. -/
theorem statement?_ofParts_misleadingDefaults :
    Balanced (Piece.bare misleadingDefaults) ∧ statement? emptySignature = some "pass".toList ∧
      (⟨1, emptySignature, ["  ".toList, "\tpass ".toList]⟩ : Segment).doesNothing = true := by
  have hlist : Balanced (Piece.bare misleadingDefaults) := by decide +kernel
  have hstatement : trim (code " pass  # it's \"new\":".toList) = "pass".toList := by decide +kernel
  have hopen : '(' ∉ "func f".toList := by decide
  have hhead : "func f".toList.all isPlain = true := by decide
  have hcolon : ':' ∉ " -> int".toList := by decide
  have hresult : " -> int".toList.all isPlain = true := by decide
  obtain ⟨hfound, hnothing⟩ :=
    statement?_ofParts hopen hhead hlist hcolon hresult " pass  # it's \"new\":".toList
  refine ⟨hlist, hfound.trans (by rw [hstatement]; rfl),
    (hnothing _ rfl ?_).mpr (Or.inr hstatement)⟩
  intro line hline
  simp only [List.mem_cons, List.not_mem_nil, or_false] at hline
  rcases hline with rfl | rfl
  · exact Or.inl (by decide)
  · exact Or.inr (by decide)

end Signature

end ScriptAudit
