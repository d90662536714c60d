import Mathlib.Data.List.Infix
import Mathlib.Tactic.Common
import ScriptAudit.Proofs.Literals
import ScriptAudit.Script.Signature

/-!
# Parameter lists

The parameters of a signature are counted in two passes.  The first finds the end of the list in the
text as it is written, and counts brackets in literals like any others.  The second empties the
literals and counts commas.  So what stands in a literal has no influence on the count as long as
the brackets of the list are balanced as they are written; a bracket in a literal that upsets this
balance ends the list too early or too late.

## Main definitions

* `ScriptAudit.Signature.depth`, `ScriptAudit.Signature.Balanced` — how many brackets a text leaves
  open, and texts that close exactly the brackets that they open.
* `ScriptAudit.Signature.ofParts` — a signature with a given parameter list.

## Main results

* `ScriptAudit.Signature.parameters_ofParts_eq_iff` — the parameter list is found as it is written
  if and only if it is balanced as it is written.
* `ScriptAudit.Signature.parameterCount_written` — then its literals may be emptied without changing
  the number of parameters.
* `ScriptAudit.Signature.parameterCount_bracketLiteral` — otherwise they may not.
-/

set_option relaxedAutoImplicit false
set_option autoImplicit false

namespace ScriptAudit.Signature

open Text Script

/-! ## Balanced texts -/

/-- The number of brackets that a text opens, less the number of those that it closes. -/
def depth (text : List Char) : Int := text.countP isOpening - text.countP isClosing

/-- A text that is read while `start` brackets are open closes all of them in the end, and never
closes more brackets than are open. -/
structure BalancedFrom (start : Int) (text : List Char) : Prop where
  nonneg : ∀ initial, initial <+: text → 0 ≤ start + depth initial
  zero : start + depth text = 0

/-- **A balanced text**: its depth is never negative, and zero at its end. -/
abbrev Balanced (text : List Char) : Prop := BalancedFrom 0 text

/-- By how much a character changes the number of open brackets. -/
def change (c : Char) : Int := if isOpening c then 1 else if isClosing c then -1 else 0

/-- No bracket opens and closes. -/
lemma isOpening_of_isClosing {c : Char} (h : isClosing c = true) : isOpening c = false := by
  simp only [isClosing, Bool.or_eq_true, beq_iff_eq] at h
  rcases h with (rfl | rfl) | rfl <;> rfl

/-- An opening bracket adds one to the depth. -/
lemma change_of_isOpening {c : Char} (h : isOpening c = true) : change c = 1 := if_pos h

/-- A closing bracket takes one off the depth. -/
lemma change_of_isClosing {c : Char} (h : isClosing c = true) : change c = -1 := by
  rw [change, if_neg (by simp [isOpening_of_isClosing h]), if_pos h]

/-- Any other character leaves the depth as it is. -/
lemma change_of_other {c : Char} (hopening : isOpening c = false) (hclosing : isClosing c = false) :
    change c = 0 := by
  rw [change, if_neg (by simp [hopening]), if_neg (by simp [hclosing])]

/-- The depth of a text is what its first character adds to that of the rest. -/
lemma depth_cons (c : Char) (rest : List Char) : depth (c :: rest) = change c + depth rest := by
  simp only [depth, change, List.countP_cons]
  split_ifs with hopening hclosing hclosing
  · simp [isOpening_of_isClosing hclosing] at hopening
  all_goals
    push_cast
    omega

/-- The empty text is balanced from depth zero only. -/
lemma balancedFrom_nil (start : Int) : BalancedFrom start [] ↔ start = 0 := by
  constructor
  · intro h
    simpa [depth] using h.zero
  · rintro rfl
    refine ⟨fun initial hinitial => ?_, rfl⟩
    rw [List.prefix_nil.mp hinitial]
    exact Int.le_refl 0

/-- The first character of a text changes the number of brackets that are open for the rest of it.

**Proof sketch.** A beginning of the text is empty, or it is the first character and a beginning of
the rest; the depths of the two differ by what this character changes. -/
lemma balancedFrom_cons (start : Int) (c : Char) (rest : List Char) :
    BalancedFrom start (c :: rest) ↔ 0 ≤ start ∧ BalancedFrom (start + change c) rest := by
  constructor
  · rintro ⟨hnonneg, hzero⟩
    refine ⟨by simpa [depth] using hnonneg [] List.nil_prefix, fun initial hinitial => ?_, ?_⟩
    · have hle := hnonneg (c :: initial) (List.cons_prefix_cons.mpr ⟨rfl, hinitial⟩)
      rw [depth_cons] at hle
      omega
    · rw [depth_cons] at hzero
      omega
  · rintro ⟨hstart, hnonneg, hzero⟩
    refine ⟨fun initial hinitial => ?_, ?_⟩
    · rcases List.prefix_cons_iff.mp hinitial with rfl | ⟨initial, rfl, hrest⟩
      · simpa [depth] using hstart
      · have hle := hnonneg initial hrest
        rw [depth_cons]
        omega
    · rw [depth_cons]
      omega

/-- Balance can be checked character by character. -/
instance decidableBalancedFrom :
    (start : Int) → (text : List Char) → Decidable (BalancedFrom start text)
  | start, [] => decidable_of_iff _ (balancedFrom_nil start).symm
  | start, c :: rest =>
    have := decidableBalancedFrom (start + change c) rest
    decidable_of_iff _ (balancedFrom_cons start c rest).symm

/-! ## The end of a parameter list -/

/-- An opening bracket inside a list has to be closed first. -/
lemma atClosing_cons_opening {c : Char} (h : isOpening c = true) (begun : Nat) (rest : List Char) :
    atClosing begun (c :: rest) =
      (c :: (atClosing (begun + 1) rest).1, (atClosing (begun + 1) rest).2) := by
  rw [atClosing.eq_def]
  simp [h]

/-- A closing bracket closes the list if no other bracket is open. -/
lemma atClosing_zero_cons_closing {c : Char} (h : isClosing c = true) (rest : List Char) :
    atClosing 0 (c :: rest) = ([], some rest) := by
  rw [atClosing.eq_def]
  simp [h, isOpening_of_isClosing h]

/-- A closing bracket closes the innermost bracket that is open. -/
lemma atClosing_succ_cons_closing {c : Char} (h : isClosing c = true) (begun : Nat)
    (rest : List Char) :
    atClosing (begun + 1) (c :: rest) =
      (c :: (atClosing begun rest).1, (atClosing begun rest).2) := by
  rw [atClosing.eq_def]
  simp [h, isOpening_of_isClosing h]

/-- Any other character belongs to the list. -/
lemma atClosing_cons_other {c : Char} (hopening : isOpening c = false)
    (hclosing : isClosing c = false) (begun : Nat) (rest : List Char) :
    atClosing begun (c :: rest) = (c :: (atClosing begun rest).1, (atClosing begun rest).2) := by
  rw [atClosing.eq_def]
  simp [hopening, hclosing]

/-- **The bracket that closes a list.**  Behind an opening bracket, with `begun` further ones open,
the text before a closing bracket is found as the list if and only if it is balanced.

**Proof sketch.** Induction on the text, which both sides read one character at a time.  A closing
bracket in the text ends the list too early exactly when no further bracket is open, and then the
text closes more brackets than are open. -/
lemma fst_atClosing_eq_iff {close : Char} (hclose : isClosing close = true) (begun : Nat)
    (text tail : List Char) :
    (atClosing begun (text ++ close :: tail)).1 = text ↔ BalancedFrom begun text := by
  induction text generalizing begun with
  | nil =>
    rw [balancedFrom_nil, List.nil_append]
    cases begun with
    | zero => simp [atClosing_zero_cons_closing hclose]
    | succ begun =>
      simp only [atClosing_succ_cons_closing hclose, List.cons_ne_nil, false_iff]
      push_cast
      omega
  | cons c rest ih =>
    rw [balancedFrom_cons, List.cons_append]
    cases hopening : isOpening c with
    | true =>
      rw [atClosing_cons_opening hopening, change_of_isOpening hopening, List.cons_inj_right, ih]
      simp
    | false =>
      cases hclosing : isClosing c with
      | false =>
        rw [atClosing_cons_other hopening hclosing, change_of_other hopening hclosing,
          List.cons_inj_right, ih]
        simp
      | true =>
        rw [change_of_isClosing hclosing]
        cases begun with
        | zero =>
          rw [atClosing_zero_cons_closing hclosing]
          simp only [List.nil_eq, reduceCtorEq, false_iff]
          rintro ⟨-, hrest⟩
          simpa [depth] using hrest.nonneg [] List.nil_prefix
        | succ begun =>
          have hless : ((begun + 1 : Nat) : Int) + -1 = begun := by omega
          rw [atClosing_succ_cons_closing hclosing, List.cons_inj_right, ih, hless]
          exact ⟨fun h => ⟨Int.natCast_nonneg _, h⟩, And.right⟩

/-- A signature with a given parameter list.  The head is the keyword and the name. -/
def ofParts (head list tail : List Char) : List Char := head ++ '(' :: (list ++ ')' :: tail)

/-- The parameter list begins at the first opening parenthesis. -/
lemma parameterList?_append {head : List Char} (hhead : '(' ∉ head) (rest : List Char) :
    parameterList? (head ++ '(' :: rest) = some (atClosing 0 rest) := by
  have hskip : ∀ c ∈ head, (c != '(') = true := by
    intro c hc
    rw [bne_iff_ne]
    rintro rfl
    exact hhead hc
  rw [parameterList?, List.dropWhile_append_of_pos hskip]
  simp

/-- The parameters of a signature are what stands before the bracket that closes its list. -/
lemma parameters_ofParts {head : List Char} (hhead : '(' ∉ head) (list tail : List Char) :
    parameters (ofParts head list tail) = (atClosing 0 (list ++ ')' :: tail)).1 := by
  rw [parameters, ofParts, parameterList?_append hhead]

/-- **The parameter list is found as it is written** if and only if it is balanced as it is written,
the contents of literals included. -/
theorem parameters_ofParts_eq_iff {head : List Char} (hhead : '(' ∉ head) (list tail : List Char) :
    parameters (ofParts head list tail) = list ↔ Balanced list := by
  rw [parameters_ofParts hhead]
  exact fst_atClosing_eq_iff rfl 0 list tail

/-! ## The number of parameters -/

/-- The parameters of a balanced list are counted with its literals emptied. -/
lemma code_parameters_written {head : List Char} (hhead : '(' ∉ head) {pieces : List Piece}
    (h : Balanced (Piece.written pieces)) (tail : List Char) :
    code (parameters (ofParts head (Piece.written pieces) tail)) = trimEnd (Piece.bare pieces) := by
  rw [(parameters_ofParts_eq_iff hhead _ tail).mpr h]
  exact code_written pieces

/-- **Literals in a parameter list.**  Let a list be balanced once its literals are emptied.  It is
found as it is written exactly if it is also balanced as it is written, and then the number of
parameters is the same as with all literals emptied. -/
theorem parameterCount_written {head : List Char} (hhead : '(' ∉ head) {pieces : List Piece}
    (hbare : Balanced (Piece.bare pieces)) (tail : List Char) :
    (parameters (ofParts head (Piece.written pieces) tail) = Piece.written pieces ↔
        Balanced (Piece.written pieces)) ∧
      (Balanced (Piece.written pieces) →
        parameterCount (ofParts head (Piece.written pieces) tail) =
          parameterCount (ofParts head (Piece.bare pieces) tail)) := by
  refine ⟨parameters_ofParts_eq_iff hhead _ tail, fun hwritten => ?_⟩
  -- the bare list is written in pieces as well, and emptying these changes nothing
  have hcode : code (parameters (ofParts head (Piece.bare pieces) tail)) =
      trimEnd (Piece.bare (pieces.map Piece.emptied)) := code_parameters_written hhead hbare tail
  rw [Piece.bare_map_emptied] at hcode
  rw [parameterCount, parameterCount, code_parameters_written hhead hwritten, hcode]

/-- Two default values with a bracket each, `a = "(,", b = ')'`.  Together the brackets are
balanced. -/
def bracketPair : List Piece :=
  [.chunk "a = ".toList (by decide),
   .literal ⟨'"', "(,".toList, rfl,
   .plain (by decide) (by decide) (.plain (by decide) (by decide) .nil)⟩,
   .chunk ", b = ".toList (by decide),
   .literal ⟨'\'', ")".toList, rfl, .plain (by decide) (by decide) .nil⟩]

/-- The comma between the brackets is not counted. -/
theorem parameterCount_written_bracketPair :
    Balanced (Piece.bare bracketPair) ∧ Balanced (Piece.written bracketPair) ∧
      parameterCount (ofParts "func f".toList (Piece.written bracketPair) " -> int:".toList) =
        parameterCount (ofParts "func f".toList (Piece.bare bracketPair) " -> int:".toList) := by
  have hhead : '(' ∉ "func f".toList := by decide
  have hbare : Balanced (Piece.bare bracketPair) := by decide +kernel
  have hwritten : Balanced (Piece.written bracketPair) := by decide +kernel
  exact ⟨hbare, hwritten, (parameterCount_written hhead hbare " -> int:".toList).2 hwritten⟩

/-- A default value that is a closing bracket, in front of another parameter: `a = ")", b`. -/
def bracketLiteral : List Piece :=
  [.chunk "a = ".toList (by decide),
   .literal ⟨'"', ")".toList, rfl, .plain (by decide) (by decide) .nil⟩,
   .chunk ", b".toList (by decide)]

/-- **A bracket in a literal ends the list.**  Without the content of its literal the list is
balanced and has two parameters; as it is written, only one of them is counted. -/
theorem parameterCount_bracketLiteral :
    Balanced (Piece.bare bracketLiteral) ∧
      parameterCount (ofParts "func f".toList (Piece.written bracketLiteral) ":".toList) = 1 ∧
      parameterCount (ofParts "func f".toList (Piece.bare bracketLiteral) ":".toList) = 2 := by
  decide +kernel

end ScriptAudit.Signature
