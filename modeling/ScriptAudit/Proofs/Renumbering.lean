import Mathlib.Tactic.Common
import ScriptAudit.Proofs.FunctionRanges

/-!
# Renumbering the lines of a script

What the index of a script says about a line does not depend on the numbers of the lines, but only
on their order.  If the lines are given other numbers in the same order, directives and declarations
move with their lines, each function still ends right before the next declaration, and each end of a
block still belongs to the same beginning.

A range need not go from the new number of its first line to the new number of its last line: where
numbers are left out behind the last line of a function, the function takes them in.  It holds the
same lines nevertheless.

## Main definitions

* `ScriptAudit.Script.Line.renumber`, `ScriptAudit.Directive.renumber` — a line and a directive with
  another number.
* `ScriptAudit.Script.KeepsOrder` — the new numbers are in the order of the old ones.

## Main results

* `ScriptAudit.Suppression.directives_map_renumber`,
  `ScriptAudit.Suppression.declarationLines_map_renumber` — directives and declarations move with
  their lines.
* `ScriptAudit.Suppression.any_hides_pairUp_renumber`, `ScriptAudit.Suppression.snd_pairUp_renumber`
  — the pairing yields ranges that hold the same lines, and notes the same directives.
-/

set_option relaxedAutoImplicit false
set_option autoImplicit false

namespace ScriptAudit

/-! ## Directives and declarations -/

/-- If a recogniser answers as another one does, but for a change to what was found, so do the
searches. -/
lemma Text.findFrom_map {α β : Type} {find : Recogniser α} {find' : Recogniser β} {g : α → β}
    (h : ∀ before text,
      find' before text = (find before text).map fun found => (g found.1, found.2))
    (skip : Nat) (before : Option Char) (text : List Char) :
    findFrom find' skip before text = (findFrom find skip before text).map g := by
  fun_induction findFrom find skip before text with
  | case1 => rfl
  | case2 skip before c rest ih => exact ih
  | case3 before c rest found after hfound ih =>
    rw [findFrom, h, hfound, List.map_cons, ← ih]
    rfl
  | case4 before c rest hnone ih =>
    rw [findFrom, h, hnone, ← ih]
    rfl

/-- The line with another number. -/
def Script.Line.renumber (f : Int → Int) (line : Line) : Line :=
  { line with number := f line.number }

/-- The new numbers are in the order of the old ones. -/
def Script.KeepsOrder (f : Int → Int) : Prop := ∀ m n, f m < f n ↔ m < n

namespace Script.KeepsOrder

variable {f : Int → Int} (hf : KeepsOrder f) (m n : Int)
include hf

/-- Renumbering keeps whether a line comes before another or is the same. -/
lemma le_iff : f m ≤ f n ↔ m ≤ n := by
  have hlt := hf n m
  omega

/-- Renumbering keeps lines apart. -/
lemma eq_iff : f m = f n ↔ m = n := by
  have hlt := hf m n
  have hgt := hf n m
  omega

end Script.KeepsOrder

namespace Directive

/-- The directive on the line with another number. -/
def renumber (f : Int → Int) (d : Directive) : Directive := { d with line := f d.line }

/-- Renumbering keeps the kind of a directive. -/
@[simp]
lemma kind_renumber (f : Int → Int) (d : Directive) : (d.renumber f).kind = d.kind := rfl

/-- Renumbering moves a directive to the new number of its line. -/
@[simp]
lemma line_renumber (f : Int → Int) (d : Directive) : (d.renumber f).line = f d.line := rfl

/-- Renumbering keeps the checks that a directive names. -/
@[simp]
lemma ids_renumber (f : Int → Int) (d : Directive) : (d.renumber f).ids = d.ids := rfl

/-- Renumbering keeps the checks that a directive covers. -/
@[simp]
lemma covers_renumber (f : Int → Int) (d : Directive) (id : String) :
    (d.renumber f).covers id = d.covers id := rfl

/-- Which directives stand on a line does not depend on its number. -/
lemma findOn_renumber (f : Int → Int) (line : Int) (text : List Char) :
    findOn (f line) text = (findOn line text).map (renumber f) := by
  refine Text.findFrom_map (fun before text => ?_) 0 none text
  unfold recognise
  cases marker.isPrefixOf? text with
  | none => rfl
  | some rest =>
    rw [Option.map_map]
    refine congrArg (Option.map · _) (funext fun kind => ?_)
    simp only [Function.comp_apply]
    split <;> rfl

end Directive

namespace Suppression

open Script

/-- Consecutive lines that get consecutive numbers are numbered from another line on.

**Proof sketch.** Induction on the lines.  The first line gets the first new number, and for the
lines below it both numberings begin one later. -/
lemma map_renumber_numbered {f : Int → Int} {first first' : Int} {ls : List (List Char)}
    (h : ∀ k : Nat, k < ls.length → f (first + k) = first' + k) :
    (numbered first ls).map (.renumber f) = numbered first' ls := by
  induction ls generalizing first first' with
  | nil => rfl
  | cons raw rest ih =>
    have hfirst : f first = first' := by simpa using h 0 (Nat.succ_pos _)
    have hrest : ∀ k : Nat, k < rest.length → f (first + 1 + k) = first' + 1 + k := by
      intro k hk
      have hnext := h (k + 1) (Nat.succ_lt_succ hk)
      push_cast at hnext
      rw [Int.add_assoc, Int.add_comm 1, hnext]
      omega
    rw [numbered_cons, List.map_cons, ih hrest, numbered_cons]
    simp [Line.renumber, hfirst]

/-- The directives of renumbered lines are the renumbered directives. -/
lemma directives_map_renumber (f : Int → Int) (lines : List Line) :
    directives (lines.map (.renumber f)) = (directives lines).map (.renumber f) := by
  rw [directives, directives, List.flatMap_map, List.map_flatMap]
  exact List.flatMap_congr fun line _ => Directive.findOn_renumber f line.number line.raw

/-- The declaring lines are renumbered with the script. -/
lemma declarationLines_map_renumber (f : Int → Int) (lines : List Line) :
    declarationLines (lines.map (.renumber f)) = (declarationLines lines).map f := by
  rw [declarationLines, declarationLines, List.filter_map, List.map_map, List.map_map]
  rfl

/-! ## Functions -/

section Functions

variable {f : Int → Int} (hf : KeepsOrder f)
include hf

/-- The first number behind a given one stays the first. -/
lemma find?_map_lt (xs : List Int) (k : Int) :
    (xs.map f).find? (f k < ·) = (xs.find? (k < ·)).map f := by
  rw [List.find?_map]
  refine congrArg (fun p => (xs.find? p).map f) (funext fun m => ?_)
  exact decide_eq_decide.mpr (hf k m)

/-- Renumbering keeps increasing lines increasing. -/
lemma pairwise_map_lt {xs : List Int} (h : xs.Pairwise (· < ·)) : (xs.map f).Pairwise (· < ·) :=
  List.pairwise_map.mpr (h.imp fun hlt => (hf _ _).mpr hlt)

/-- A function holds the same lines of the script, though it may end with a line that has no old
number.

**Proof sketch.** If another function follows, its new first line is that of the old one.  If none
does, both functions go to the end of their scripts, and the line is in both. -/
lemma le_lastLine_map_iff (declarations : List Int) {total total' n : Int} (hn : n ≤ total)
    (hn' : f n ≤ total') (s : Int) :
    f n ≤ lastLine (declarations.map f) total' (f s) ↔ n ≤ lastLine declarations total s := by
  unfold lastLine
  rw [find?_map_lt hf]
  cases declarations.find? (s < ·) with
  | none => exact ⟨fun _ => hn, fun _ => hn'⟩
  | some next =>
    simp only [Option.map_some, Option.getD_some, Int.le_sub_one_iff]
    exact hf n next

variable {declarations : List Int} (hs : declarations.Pairwise (· < ·))
include hs

/-- The range of a function directive hides the same. -/
lemma any_hides_functionRange?_renumber {total total' n : Int} (hn : n ≤ total) (hn' : f n ≤ total')
    (d : Directive) (id : String) :
    (functionRange? (declarations.map f).toArray total' (d.renumber f)).toList.any
      (·.hides (f n) id) =
      (functionRange? declarations.toArray total d).toList.any (·.hides n id) := by
  rw [functionRange?_eq (pairwise_map_lt hf hs), functionRange?_eq hs, Directive.line_renumber,
    find?_map_lt hf]
  cases declarations.find? (d.line < ·) with
  | none => rfl
  | some s =>
    simp only [Option.map_some, Option.toList_some, List.any_cons, List.any_nil,
      Directive.ids_renumber, LineRange.hides, hf.le_iff,
      le_lastLine_map_iff hf declarations hn hn']

/-- A function directive has a range if and only if it had one before. -/
lemma isSome_functionRange?_renumber (total total' : Int) (d : Directive) :
    (functionRange? (declarations.map f).toArray total' (d.renumber f)).isSome =
      (functionRange? declarations.toArray total d).isSome := by
  rw [functionRange?_eq (pairwise_map_lt hf hs), functionRange?_eq hs, Directive.line_renumber,
    find?_map_lt hf, Option.isSome_map, Option.isSome_map, Option.isSome_map]

end Functions

/-! ## Pairing -/

/-- The blocks that are open behind a directive are renumbered with it. -/
lemma begunAfter_renumber (f : Int → Int) (begun : List Directive) (d : Directive) :
    begunAfter (begun.map (.renumber f)) (d.renumber f) =
      (begunAfter begun d).map (.renumber f) := by
  unfold begunAfter
  rw [Directive.kind_renumber]
  cases d.kind with
  | blockEnd => exact List.map_tail.symm
  | file | below | function | blockStart | nextLine | line => rfl

section Pairing

variable {f : Int → Int} (hf : KeepsOrder f) {declarations : List Int}
  (hs : declarations.Pairwise (· < ·))
include hf hs

/-- **The range of a directive hides the same lines** after renumbering.

**Proof sketch.** By the kind of the directive.  The ends of a block are renumbered, and those of a
function are found by declaring lines that are renumbered as well. -/
lemma any_hides_rangeAt_renumber {total total' n : Int} (hn : n ≤ total) (hn' : f n ≤ total')
    (begun : List Directive) (d : Directive) (id : String) :
    (rangeAt (declarations.map f).toArray total' (begun.map (.renumber f))
      (d.renumber f)).toList.any
        (·.hides (f n) id) =
      (rangeAt declarations.toArray total begun d).toList.any (·.hides n id) := by
  unfold rangeAt
  rw [Directive.kind_renumber]
  cases d.kind with
  | function => exact any_hides_functionRange?_renumber hf hs hn hn' d id
  | blockEnd =>
    cases begun with
    | nil => rfl
    | cons start outer => simp [LineRange.hides, hf.le_iff]
  | file | below | blockStart | nextLine | line => rfl

/-- A directive without effect stays without effect.

**Proof sketch.** By the kind of the directive: whether a block is open and whether a function
follows are both kept. -/
lemma unmatchedAt_renumber (total total' : Int) (begun : List Directive) (d : Directive) :
    unmatchedAt (declarations.map f).toArray total' (begun.map (.renumber f)) (d.renumber f) =
      (unmatchedAt declarations.toArray total begun d).map f := by
  unfold unmatchedAt
  rw [Directive.kind_renumber]
  cases d.kind with
  | function =>
    simp only [isSome_functionRange?_renumber hf hs total total']
    split <;> rfl
  | blockEnd => cases begun <;> rfl
  | file | below | blockStart | nextLine | line => rfl

/-- **Renumbering and ranges.**  The ranges found for renumbered lines hide on a line of the script
what the ranges found before hide there.

**Proof sketch.** Induction on the directives.  Each of them completes a range that hides the same,
or none, and leaves the same blocks begun. -/
lemma any_hides_pairUp_renumber {total total' n : Int} (hn : n ≤ total) (hn' : f n ≤ total')
    (begun ds : List Directive) (id : String) :
    (pairUp (declarations.map f).toArray total' (begun.map (.renumber f))
      (ds.map (.renumber f))).1.any
        (·.hides (f n) id) =
      (pairUp declarations.toArray total begun ds).1.any (·.hides n id) := by
  induction ds generalizing begun with
  | nil => rfl
  | cons d rest ih =>
    rw [List.map_cons, pairUp_cons, pairUp_cons, begunAfter_renumber, List.any_append,
      List.any_append, ih, any_hides_rangeAt_renumber hf hs hn hn']

/-- **Renumbering and directives without effect.**  The same directives are noted, under their new
lines.

**Proof sketch.** Induction on the directives.  Renumbering keeps the order of lines, so each
directive does the same to the stack as before. -/
lemma snd_pairUp_renumber (total total' : Int) (begun ds : List Directive) :
    (pairUp (declarations.map f).toArray total' (begun.map (.renumber f))
      (ds.map (.renumber f))).2 =
      (pairUp declarations.toArray total begun ds).2.map f := by
  induction ds generalizing begun with
  | nil =>
    simp only [pairUp, List.map_nil, List.map_map]
    rfl
  | cons d rest ih =>
    rw [List.map_cons, pairUp_cons, pairUp_cons, begunAfter_renumber, ih, List.map_append,
      unmatchedAt_renumber hf hs total total', Option.toList_map]

end Pairing

end Suppression

end ScriptAudit
