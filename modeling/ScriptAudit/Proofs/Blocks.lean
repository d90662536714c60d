import Mathlib.Tactic.Common
import ScriptAudit.Proofs.Reading

/-!
# Blocks

The beginning and the end of a block are two directives that match like brackets.  The index pairs
them with a stack of the blocks begun and not yet ended.  Here the pairs are described by counting
alone: a beginning is matched by the first later end at which the ends since the beginning outnumber
the beginnings since it.

## Main definitions

* `ScriptAudit.Suppression.Overruns` — ends outnumber beginnings by more than a given depth.
* `ScriptAudit.Suppression.ClosesAt` — the first end at which they do; at depth zero this is the end
  that matches a block.
* `ScriptAudit.Suppression.IsBlock` — the range of a matched pair.

## Main results

* `ScriptAudit.Suppression.mem_pairUp_iff` — the ranges of an index are those of the function
  directives and of the matched pairs.

## Implementation notes

The stack enters through its depth: the block `i` places below its top ends where ends outnumber
beginnings by more than `i`.  So one notion serves the blocks begun among the directives that are
still to be read and those begun before.
-/

set_option relaxedAutoImplicit false
set_option autoImplicit false

namespace ScriptAudit.Suppression

/-! ## Counting beginnings and ends -/

/-- The number of directives that begin a block. -/
def beginnings (ds : List Directive) : Nat := ds.countP (·.kind == .blockStart)

/-- The number of directives that end a block. -/
def ends (ds : List Directive) : Nat := ds.countP (·.kind == .blockEnd)

/-- The ends outnumber the beginnings by more than `depth`. -/
def Overruns (depth : Nat) (ds : List Directive) : Prop := beginnings ds + depth < ends ds

/-- **The matching end.**  Among the directives `later`, `e` is the first end at which the ends so
far, itself included, outnumber the beginnings by more than `depth`.  At depth zero it matches a
block that is begun right before `later`. -/
def ClosesAt (depth : Nat) (later : List Directive) (e : Directive) : Prop :=
  ∃ between rest, later = between ++ e :: rest ∧ e.kind = .blockEnd ∧
    Overruns depth (between ++ [e]) ∧
    ∀ before earlier after, between = before ++ earlier :: after → earlier.kind = .blockEnd →
      ¬ Overruns depth (before ++ [earlier])

/-- A further directive adds one beginning if it starts a block, and none otherwise. -/
lemma beginnings_cons (d : Directive) (ds : List Directive) :
    beginnings (d :: ds) = beginnings ds + if d.kind = .blockStart then 1 else 0 := by
  simp only [beginnings, List.countP_cons, beq_iff_eq]

/-- A further directive adds one end if it ends a block, and none otherwise. -/
lemma ends_cons (d : Directive) (ds : List Directive) :
    ends (d :: ds) = ends ds + if d.kind = .blockEnd then 1 else 0 := by
  simp only [ends, List.countP_cons, beq_iff_eq]

/-- A beginning makes it one harder for the ends to outnumber the beginnings. -/
lemma overruns_cons_start {d : Directive} (h : d.kind = .blockStart) (depth : Nat)
    (ds : List Directive) : Overruns depth (d :: ds) ↔ Overruns (depth + 1) ds := by
  have hend : d.kind ≠ .blockEnd := by rw [h]; decide
  rw [Overruns, Overruns, beginnings_cons, ends_cons, if_pos h, if_neg hend]
  omega

/-- An end makes it one easier for the ends to outnumber the beginnings. -/
lemma overruns_cons_end {d : Directive} (h : d.kind = .blockEnd) (depth : Nat)
    (ds : List Directive) : Overruns (depth + 1) (d :: ds) ↔ Overruns depth ds := by
  have hstart : d.kind ≠ .blockStart := by rw [h]; decide
  rw [Overruns, Overruns, beginnings_cons, ends_cons, if_pos h, if_neg hstart]
  omega

/-- Directives of other kinds do not count. -/
lemma overruns_cons_other {d : Directive} (hstart : d.kind ≠ .blockStart)
    (hend : d.kind ≠ .blockEnd) (depth : Nat) (ds : List Directive) :
    Overruns depth (d :: ds) ↔ Overruns depth ds := by
  rw [Overruns, Overruns, beginnings_cons, ends_cons, if_neg hstart, if_neg hend]
  rfl

/-- Where nothing is read, ends do not outnumber beginnings. -/
lemma not_overruns_nil (depth : Nat) : ¬ Overruns depth [] := Nat.not_lt_zero _

/-! ## Reading one directive -/

/-- **Reading one directive** that closes nothing only changes the depth.

**Proof sketch.** The directives read so far are never empty where a block is closed, since an
overrun of `[d]` would be one of no directives at all at the changed depth.  So `d` is the first one
between the two places, and dropping or adding it there changes all counts alike. -/
lemma closesAt_cons {depth depth' : Nat} {d : Directive}
    (hshift : ∀ ds, Overruns depth (d :: ds) ↔ Overruns depth' ds) (ds : List Directive)
    (e : Directive) : ClosesAt depth (d :: ds) e ↔ ClosesAt depth' ds e := by
  have hfirst : ¬ Overruns depth [d] := by
    rw [hshift]
    exact not_overruns_nil depth'
  constructor
  · rintro ⟨between, rest, hsplit, hkind, hover, hnone⟩
    cases between with
    | nil =>
      obtain ⟨rfl, -⟩ := List.cons_eq_cons.mp hsplit
      exact absurd hover hfirst
    | cons d' between =>
      obtain ⟨rfl, htail⟩ := List.cons_eq_cons.mp hsplit
      refine ⟨between, rest, htail, hkind, (hshift _).mp hover, ?_⟩
      rintro before earlier after rfl hearlier hover'
      exact hnone (d :: before) earlier after rfl hearlier ((hshift _).mpr hover')
  · rintro ⟨between, rest, rfl, hkind, hover, hnone⟩
    refine ⟨d :: between, rest, rfl, hkind, (hshift _).mpr hover, ?_⟩
    intro before earlier after hsplit hearlier hover'
    cases before with
    | nil =>
      obtain ⟨rfl, -⟩ := List.cons_eq_cons.mp hsplit
      exact hfirst hover'
    | cons d' before =>
      obtain ⟨rfl, htail⟩ := List.cons_eq_cons.mp hsplit
      exact hnone before earlier after htail hearlier ((hshift _).mp hover')

/-- At depth zero, an end that is read first is the one that matches.

**Proof sketch.** The end that is read first overruns the depth zero.  An end that closes later
would have to be preceded by none that overruns it. -/
lemma closesAt_zero_cons_end {d : Directive} (h : d.kind = .blockEnd) (ds : List Directive)
    (e : Directive) : ClosesAt 0 (d :: ds) e ↔ e = d := by
  have hfirst : Overruns 0 [d] := by
    rw [Overruns, ends_cons, if_pos h]
    simp [beginnings, h]
  constructor
  · rintro ⟨between, rest, hsplit, -, -, hnone⟩
    cases between with
    | nil => exact (List.cons_eq_cons.mp hsplit).1.symm
    | cons d' between =>
      obtain ⟨rfl, -⟩ := List.cons_eq_cons.mp hsplit
      exact absurd hfirst (hnone [] d between rfl h)
  · rintro rfl
    exact ⟨[], ds, rfl, h, hfirst, fun before earlier after hsplit => by simp at hsplit⟩

/-- No block is closed where nothing is read. -/
lemma not_closesAt_nil (depth : Nat) (e : Directive) : ¬ ClosesAt depth [] e := by
  rintro ⟨between, rest, hsplit, -⟩
  simp at hsplit

/-! ## Ranges of blocks -/

/-- The range of a block that is begun by `d` and ended by `e`. -/
def blockRange (d e : Directive) : LineRange := ⟨d.line, e.line, d.ids⟩

/-- The range belongs to a block that is begun and ended among the given directives. -/
def IsBlock (ds : List Directive) (range : LineRange) : Prop :=
  ∃ before d after e, ds = before ++ d :: after ∧ d.kind = .blockStart ∧ ClosesAt 0 after e ∧
    range = blockRange d e

/-- The range belongs to one of the blocks `begun`, the last one first, and is ended among the
directives `ds`. -/
def IsOpenBlock (begun ds : List Directive) (range : LineRange) : Prop :=
  ∃ i d e, begun[i]? = some d ∧ ClosesAt i ds e ∧ range = blockRange d e

/-- A block is begun by the directive read first, or later.

**Proof sketch.** By whether anything is read before the beginning of the block. -/
lemma isBlock_cons (d : Directive) (ds : List Directive) (range : LineRange) :
    IsBlock (d :: ds) range ↔
      (d.kind = .blockStart ∧ ∃ e, ClosesAt 0 ds e ∧ range = blockRange d e) ∨
        IsBlock ds range := by
  constructor
  · rintro ⟨before, start, after, e, hsplit, hkind, hcloses, hrange⟩
    cases before with
    | nil =>
      obtain ⟨rfl, rfl⟩ := List.cons_eq_cons.mp hsplit
      exact Or.inl ⟨hkind, e, hcloses, hrange⟩
    | cons d' before =>
      obtain ⟨rfl, htail⟩ := List.cons_eq_cons.mp hsplit
      exact Or.inr ⟨before, start, after, e, htail, hkind, hcloses, hrange⟩
  · rintro (⟨hkind, e, hcloses, hrange⟩ | ⟨before, start, after, e, rfl, hkind, hcloses, hrange⟩)
    · exact ⟨[], d, ds, e, rfl, hkind, hcloses, hrange⟩
    · exact ⟨d :: before, start, after, e, rfl, hkind, hcloses, hrange⟩

/-- A beginning puts one block more on the stack, which moves the others one place down.

**Proof sketch.** By the position in the stack.  The new beginning is at position zero, and for the
others one more end is needed once it has been read, by `closesAt_cons`. -/
lemma isOpenBlock_push {d : Directive} (h : d.kind = .blockStart) (begun ds : List Directive)
    (range : LineRange) :
    IsOpenBlock (d :: begun) ds range ↔
      (∃ e, ClosesAt 0 ds e ∧ range = blockRange d e) ∨ IsOpenBlock begun (d :: ds) range := by
  constructor
  · rintro ⟨i, start, e, hget, hcloses, hrange⟩
    cases i with
    | zero =>
      obtain rfl : d = start := by simpa using hget
      exact Or.inl ⟨e, hcloses, hrange⟩
    | succ i =>
      refine Or.inr ⟨i, start, e, by simpa using hget, ?_, hrange⟩
      exact (closesAt_cons (overruns_cons_start h i) ds e).mpr hcloses
  · rintro (⟨e, hcloses, hrange⟩ | ⟨i, start, e, hget, hcloses, hrange⟩)
    · exact ⟨0, d, e, rfl, hcloses, hrange⟩
    · refine ⟨i + 1, start, e, by simpa using hget, ?_, hrange⟩
      exact (closesAt_cons (overruns_cons_start h i) ds e).mp hcloses

/-- An end closes the block on top of the stack, which moves the others one place up.

**Proof sketch.** By the position in the stack.  At position zero the end closes the block, by
`closesAt_zero_cons_end`; for the others one end fewer is needed once it has been read. -/
lemma isOpenBlock_pop {d : Directive} (h : d.kind = .blockEnd) (start : Directive)
    (outer ds : List Directive) (range : LineRange) :
    IsOpenBlock (start :: outer) (d :: ds) range ↔
      range = blockRange start d ∨ IsOpenBlock outer ds range := by
  constructor
  · rintro ⟨i, start', e, hget, hcloses, hrange⟩
    cases i with
    | zero =>
      obtain rfl : start = start' := by simpa using hget
      obtain rfl := (closesAt_zero_cons_end h ds e).mp hcloses
      exact Or.inl hrange
    | succ i =>
      refine Or.inr ⟨i, start', e, by simpa using hget, ?_, hrange⟩
      exact (closesAt_cons (overruns_cons_end h i) ds e).mp hcloses
  · rintro (hrange | ⟨i, start', e, hget, hcloses, hrange⟩)
    · exact ⟨0, start, d, rfl, (closesAt_zero_cons_end h ds d).mpr rfl, hrange⟩
    · refine ⟨i + 1, start', e, by simpa using hget, ?_, hrange⟩
      exact (closesAt_cons (overruns_cons_end h i) ds e).mpr hcloses

/-- Directives of other kinds leave the stack as it is. -/
lemma isOpenBlock_skip {d : Directive} (hstart : d.kind ≠ .blockStart) (hend : d.kind ≠ .blockEnd)
    (begun ds : List Directive) (range : LineRange) :
    IsOpenBlock begun (d :: ds) range ↔ IsOpenBlock begun ds range := by
  have hskip : ∀ i e, ClosesAt i (d :: ds) e ↔ ClosesAt i ds e := fun i =>
    closesAt_cons (overruns_cons_other hstart hend i) ds
  simp only [IsOpenBlock, hskip]

/-- With an empty stack, no block is open. -/
lemma not_isOpenBlock_nil (ds : List Directive) (range : LineRange) :
    ¬ IsOpenBlock [] ds range := by
  rintro ⟨i, d, e, hget, -⟩
  simp at hget

/-! ## The ranges of an index -/

/-- The range is that of a function directive among the given ones. -/
def IsFunctionRange (declarations : Array Int) (total : Int) (ds : List Directive)
    (range : LineRange) : Prop :=
  ∃ d ∈ ds, d.kind = .function ∧ functionRange? declarations total d = some range

/-- Only function directives have a range of their own. -/
lemma isFunctionRange_cons_of_ne {d : Directive} (h : d.kind ≠ .function) (declarations : Array Int)
    (total : Int) (ds : List Directive) (range : LineRange) :
    IsFunctionRange declarations total (d :: ds) range ↔
      IsFunctionRange declarations total ds range := by
  simp [IsFunctionRange, h]

/-- A function directive that is read first may contribute the range. -/
lemma isFunctionRange_cons {d : Directive} (h : d.kind = .function) (declarations : Array Int)
    (total : Int) (ds : List Directive) (range : LineRange) :
    IsFunctionRange declarations total (d :: ds) range ↔
      functionRange? declarations total d = some range ∨
        IsFunctionRange declarations total ds range := by
  simp [IsFunctionRange, h]

/-- **The ranges of an index** are those of its function directives, of the blocks begun and ended
among its directives, and of the blocks begun before that are ended among them.

**Proof sketch.** Induction on the directives.  A function directive contributes its own range.  A
beginning goes on the stack: as the block on top it ends where a block begun by the directive read
first would.  An end takes the top of the stack, which is the block that it matches.  Other
directives contribute nothing. -/
theorem mem_pairUp_iff (declarations : Array Int) (total : Int) (begun ds : List Directive)
    (range : LineRange) :
    range ∈ (pairUp declarations total begun ds).1 ↔
      IsFunctionRange declarations total ds range ∨ IsBlock ds range ∨
        IsOpenBlock begun ds range := by
  induction ds generalizing begun with
  | nil =>
    have hblock : ¬ IsBlock [] range := by
      rintro ⟨before, d, after, e, hsplit, -⟩
      simp at hsplit
    have hopen : ¬ IsOpenBlock begun [] range := by
      rintro ⟨i, d, e, -, hcloses, -⟩
      exact not_closesAt_nil i e hcloses
    simp [pairUp, IsFunctionRange, hblock, hopen]
  | cons d rest ih =>
    rw [pairUp_cons, List.mem_append, ih, isBlock_cons]
    cases hkind : d.kind with
    | function =>
      rw [isFunctionRange_cons hkind, isOpenBlock_skip (by simp [hkind]) (by simp [hkind])]
      simp [rangeAt, begunAfter, hkind, or_assoc]
    | blockStart =>
      rw [isFunctionRange_cons_of_ne (by simp [hkind])]
      simp [rangeAt, begunAfter, hkind, isOpenBlock_push hkind, or_assoc, or_left_comm]
    | blockEnd =>
      rw [isFunctionRange_cons_of_ne (by simp [hkind])]
      cases begun with
      | nil => simp [rangeAt, begunAfter, hkind, not_isOpenBlock_nil]
      | cons start outer =>
        rw [isOpenBlock_pop hkind]
        simp [rangeAt, begunAfter, hkind, blockRange, or_left_comm]
    | file | below | nextLine | line =>
      rw [isFunctionRange_cons_of_ne (by simp [hkind]),
        isOpenBlock_skip (by simp [hkind]) (by simp [hkind])]
      simp [rangeAt, begunAfter, hkind]

end ScriptAudit.Suppression
