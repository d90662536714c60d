import Mathlib.Tactic.Common
import ScriptAudit.Suppression.Build

/-!
# Reading the directives of a script

Two directives of a script may be equal, on the same line and about the same checks, and yet stand
for different blocks.  What is said about a directive is therefore said about an occurrence: the
directive, its line, and the directives read before and after it.

## Main definitions

* `ScriptAudit.Suppression.Occurs` — a directive at its place in a script.
* `ScriptAudit.Suppression.rangeAt`, `ScriptAudit.Suppression.unmatchedAt`,
  `ScriptAudit.Suppression.begunAfter` — what reading one directive contributes to an index.

## Main results

* `ScriptAudit.Suppression.occurs_iff` — the occurrences are the ways of splitting the list of all
  directives of a script at one of them.
* `ScriptAudit.Suppression.pairUp_cons` — pairing goes one directive at a time.
-/

set_option relaxedAutoImplicit false
set_option autoImplicit false

namespace ScriptAudit

/-- A property of everything that a recogniser may answer holds of all its matches. -/
lemma Text.forall_mem_findFrom {α : Type} {find : Recogniser α} {p : α → Prop}
    (hfind : ∀ before text found after, find before text = some (found, after) → p found)
    (skip : Nat) (before : Option Char) (text : List Char) :
    ∀ found ∈ findFrom find skip before text, p found := by
  fun_induction findFrom find skip before text with
  | case1 => simp
  | case2 skip before c rest ih => exact ih
  | case3 before c rest found after h ih =>
    intro x hx
    rcases List.mem_cons.mp hx with rfl | hx
    · exact hfind _ _ _ _ h
    · exact ih x hx
  | case4 before c rest h ih => exact ih

/-- A directive carries the number of the line on which it is found. -/
lemma Directive.line_of_mem_findOn {line : Int} {text : List Char} {d : Directive}
    (h : d ∈ findOn line text) : d.line = line := by
  refine Text.forall_mem_findFrom (p := fun d => d.line = line) ?_ 0 none text d h
  intro before text found after hfound
  unfold recognise at hfound
  split at hfound
  · simp at hfound
  · obtain ⟨kind, -, hkind⟩ := Option.map_eq_some_iff.mp hfound
    split at hkind
    · rw [← (Prod.mk.inj hkind).1]
    · rw [← (Prod.mk.inj hkind).1]

namespace Suppression

open Script

/-! ## Numbered lines -/

/-- A line has the number that its place gives it.

**Proof sketch.** Induction on the lines.  The place of a line below the first one is one less among
the lines that follow it, and their numbering begins one later. -/
lemma mem_numbered_iff (first : Int) (ls : List (List Char)) (line : Line) :
    line ∈ numbered first ls ↔ ∃ i : Nat, ls[i]? = some line.raw ∧ line.number = first + i := by
  induction ls generalizing first with
  | nil => simp
  | cons raw rest ih =>
    rw [numbered_cons, List.mem_cons, ih]
    constructor
    · rintro (rfl | ⟨i, hraw, hnumber⟩)
      · exact ⟨0, rfl, by simp⟩
      · exact ⟨i + 1, hraw, by push_cast; omega⟩
    · rintro ⟨i, hraw, hnumber⟩
      cases i with
      | zero =>
        obtain ⟨number, raw'⟩ := line
        simp_all
      | succ i => exact Or.inr ⟨i, hraw, by push_cast at hnumber; omega⟩

/-- The numbers of lines increase. -/
lemma pairwise_numbered (first : Int) (ls : List (List Char)) :
    (numbered first ls).Pairwise fun a b => a.number < b.number := by
  induction ls generalizing first with
  | nil => exact List.Pairwise.nil
  | cons raw rest ih =>
    rw [numbered_cons, List.pairwise_cons]
    refine ⟨fun line hline => ?_, ih (first + 1)⟩
    obtain ⟨i, -, hnumber⟩ := (mem_numbered_iff _ _ _).mp hline
    simp only
    omega

/-! ## Lists of directives -/

/-- The directives of a line come before those of the lines below it. -/
lemma directives_cons (line : Line) (lines : List Line) :
    directives (line :: lines) = Directive.findOn line.number line.raw ++ directives lines :=
  List.flatMap_cons

/-- The directives of some lines come before those of the lines below them. -/
lemma directives_append (above below : List Line) :
    directives (above ++ below) = directives above ++ directives below :=
  List.flatMap_append

/-! ## Occurrences -/

/-- **An occurrence of a directive.**  When a script is read line by line, and each line from left
to right, `d` is found on line `k`, behind the directives `before` and ahead of the directives
`after`. -/
def Occurs (script : List (List Char)) (k : Int) (before : List Directive) (d : Directive)
    (after : List Directive) : Prop :=
  ∃ above raw below left right, script = above ++ raw :: below ∧ k = above.length + 1 ∧
    Directive.findOn k raw = left ++ d :: right ∧
    before = directives (numbered 1 above) ++ left ∧
    after = right ++ directives (numbered (k + 1) below)

/-- A place in two lists joined together lies in the first one or in the second one. -/
lemma append_eq_append_cons {α : Type} {as bs before after : List α} {x : α}
    (h : as ++ bs = before ++ x :: after) :
    (∃ right, as = before ++ x :: right ∧ after = right ++ bs) ∨
      ∃ tail, before = as ++ tail ∧ bs = tail ++ x :: after := by
  rcases List.append_eq_append_iff.mp h with ⟨tail, hbefore, htail⟩ | ⟨tail, has, htail⟩
  · exact Or.inr ⟨tail, hbefore, htail⟩
  · cases tail with
    | nil => exact Or.inr ⟨[], by rw [has, List.append_nil, List.append_nil], htail.symm⟩
    | cons y right =>
      obtain ⟨rfl, hafter⟩ := List.cons_eq_cons.mp htail
      exact Or.inl ⟨right, has, hafter⟩

/-- Wherever the directives of numbered lines are split, the directive at that place stands on one
of the lines.

**Proof sketch.** Induction on the lines.  The place lies among the directives of the first line,
and then that is the line, or behind all of them. -/
lemma exists_line_of_directives_eq {script : List (List Char)} {d : Directive}
    {after : List Directive} (first : Int) (before : List Directive)
    (h : directives (numbered first script) = before ++ d :: after) :
    ∃ above raw below left right, script = above ++ raw :: below ∧
      Directive.findOn (first + above.length) raw = left ++ d :: right ∧
      before = directives (numbered first above) ++ left ∧
      after = right ++ directives (numbered (first + above.length + 1) below) := by
  induction script generalizing first before with
  | nil => simp [directives] at h
  | cons raw rest ih =>
    rw [numbered_cons, directives_cons] at h
    rcases append_eq_append_cons h with ⟨right, hraw, hafter⟩ | ⟨tail, hbefore, htail⟩
    · refine ⟨[], raw, rest, before, right, rfl, ?_, ?_, ?_⟩
      · simpa using hraw
      · simp [directives]
      · simpa using hafter
    · obtain ⟨above, raw', below, left, right, hrest, hfound, hleft, hright⟩ := ih _ _ htail
      have hnum : first + 1 + (above.length : Int) = first + ((above.length + 1 : Nat) : Int) := by
        push_cast
        omega
      rw [hnum] at hfound hright
      refine ⟨raw :: above, raw', below, left, right, by rw [hrest]; rfl, hfound, ?_, hright⟩
      rw [hbefore, hleft, numbered_cons, directives_cons, List.append_assoc]

/-- **Occurrences** are the ways of splitting the list of all directives of a script at one of
them.

**Proof sketch.** The directives of a script are those of the lines above, of the line itself and of
the lines below.  So a splitting of the line gives a splitting of the whole list, and
`exists_line_of_directives_eq` goes back. -/
theorem occurs_iff (script : List (List Char)) (k : Int) (before : List Directive) (d : Directive)
    (after : List Directive) :
    Occurs script k before d after ↔
      directives (numbered 1 script) = before ++ d :: after ∧ k = d.line := by
  constructor
  · rintro ⟨above, raw, below, left, right, rfl, rfl, hfound, rfl, rfl⟩
    constructor
    · have hnum : (1 : Int) + above.length = above.length + 1 := by omega
      rw [numbered_append, directives_append, numbered_cons, directives_cons, hnum]
      simp only [hfound, List.append_assoc, List.cons_append]
    · exact (Directive.line_of_mem_findOn
        (hfound ▸ List.mem_append_right _ List.mem_cons_self)).symm
  · rintro ⟨hread, rfl⟩
    obtain ⟨above, raw, below, left, right, rfl, hfound, rfl, rfl⟩ :=
      exists_line_of_directives_eq 1 before hread
    have hline : d.line = 1 + (above.length : Int) :=
      Directive.line_of_mem_findOn (hfound ▸ List.mem_append_right _ List.mem_cons_self)
    exact ⟨above, raw, below, left, right, rfl, by omega, by rw [hline, hfound], rfl, by rw [hline]⟩

/-- A directive of a script occurs somewhere on its line. -/
lemma mem_directives_iff (script : List (List Char)) (d : Directive) :
    d ∈ directives (numbered 1 script) ↔ ∃ before after, Occurs script d.line before d after := by
  simp only [occurs_iff, and_true, List.mem_iff_append]

/-! ## Pairing, one directive at a time -/

/-- The blocks begun and not yet ended after reading a directive. -/
def begunAfter (begun : List Directive) (d : Directive) : List Directive :=
  match d.kind with
  | .blockStart => d :: begun
  | .blockEnd => begun.tail
  | _ => begun

/-- The range that reading a directive completes, if there is one. -/
def rangeAt (declarations : Array Int) (total : Int) (begun : List Directive) (d : Directive) :
    Option LineRange :=
  match d.kind with
  | .function => functionRange? declarations total d
  | .blockEnd => begun.head?.map fun start => ⟨start.line, d.line, start.ids⟩
  | _ => none

/-- The line of a directive of which it is clear on reading it that it has no effect. -/
def unmatchedAt (declarations : Array Int) (total : Int) (begun : List Directive) (d : Directive) :
    Option Int :=
  match d.kind with
  | .function => if (functionRange? declarations total d).isSome then none else some d.line
  | .blockEnd => if begun.isEmpty then some d.line else none
  | _ => none

/-- **One step of the pairing**: what the directive read first contributes, and the pairing of the
rest from the blocks then begun. -/
lemma pairUp_cons (declarations : Array Int) (total : Int) (begun : List Directive) (d : Directive)
    (rest : List Directive) :
    pairUp declarations total begun (d :: rest) =
      ((rangeAt declarations total begun d).toList ++
          (pairUp declarations total (begunAfter begun d) rest).1,
        (unmatchedAt declarations total begun d).toList ++
          (pairUp declarations total (begunAfter begun d) rest).2) := by
  cases hkind : d.kind with
  | function =>
    cases hrange : functionRange? declarations total d <;>
      simp [pairUp, rangeAt, unmatchedAt, begunAfter, hkind, hrange]
  | blockEnd => cases begun <;> simp [pairUp, rangeAt, unmatchedAt, begunAfter, hkind]
  | file | below | blockStart | nextLine | line =>
    simp [pairUp, rangeAt, unmatchedAt, begunAfter, hkind]

/-- The ranges and the lines without effect that the given directives of a script yield. -/
def pairing (script : List (List Char)) (ds : List Directive) : List LineRange × List Int :=
  pairUp (declarationLines (numbered 1 script)).toArray script.length [] ds

/-- The ranges of the index of a script are those of all its directives, in order. -/
lemma ranges_ofLines (script : List (List Char)) :
    (ofLines script).ranges =
      (pairing script (directives (numbered 1 script))).1.mergeSort LineRange.le := rfl

/-- The lines without effect of the index of a script are those of all its directives, in order. -/
lemma unmatched_ofLines (script : List (List Char)) :
    (ofLines script).unmatched =
      (pairing script (directives (numbered 1 script))).2.mergeSort fun a b => decide (a ≤ b) := rfl

end Suppression

end ScriptAudit
