import Mathlib.Data.List.Perm.Basic
import Mathlib.Tactic.Common
import ScriptAudit.Proofs.Blocks
import ScriptAudit.Proofs.FunctionRanges

/-!
# Matching the beginnings and ends of blocks

The beginnings and ends of blocks in a script are any word of brackets, several on a line perhaps.
The index loses none of them: each belongs to one block, or it is noted as having no effect.  Blocks
do not cross, and what is left over has the shape of all words of brackets: first ends that nothing
began, then beginnings that nothing ends.

All of this is said about directives at their places in the order of reading, since two of them may
be equal.  What follows for the lines of the ranges is weaker: blocks that follow each other may
share a line.

## Main definitions

* `ScriptAudit.Suppression.Placed` — a directive at its place.
* `ScriptAudit.Suppression.Matching` — a matching of beginnings and ends, with the proof that it is
  one.

## Main results

* `ScriptAudit.Suppression.exists_matching_pairUp` — pairing with a stack finds a matching.
* `ScriptAudit.Suppression.exists_matching_ofLines` — the ranges of the index of a script are those
  of a matching and of the function directives, and what is noted is all the rest.
-/

set_option relaxedAutoImplicit false
set_option autoImplicit false

namespace ScriptAudit

/-- A range of lines holds a line. -/
def LineRange.Holds (range : LineRange) (line : Int) : Prop :=
  range.first ≤ line ∧ line ≤ range.last

/-- Every line of the second range is one of the first. -/
def LineRange.Contains (range inner : LineRange) : Prop := ∀ n, inner.Holds n → range.Holds n

/-- Two ranges have one line in common, or none. -/
def LineRange.MeetOnce (range other : LineRange) : Prop :=
  ∀ m n, range.Holds m → other.Holds m → range.Holds n → other.Holds n → m = n

namespace Suppression

open Script

/-! ## Places -/

/-- A directive and its place in the order of reading. -/
structure Placed where
  /-- How many directives are read before it. -/
  place : Nat
  /-- The directive. -/
  directive : Directive
  deriving DecidableEq

/-- The directives of one kind at their places, the first directive of the list being at place
`first`. -/
def placed (kind : DirectiveKind) : (first : Nat) → List Directive → List Placed
  | _, [] => []
  | first, d :: rest =>
    if d.kind = kind then ⟨first, d⟩ :: placed kind (first + 1) rest
    else placed kind (first + 1) rest

/-- A directive of the kind that is looked for stands first, at the first place. -/
lemma placed_cons_of_eq {kind : DirectiveKind} {d : Directive} (h : d.kind = kind) (first : Nat)
    (ds : List Directive) :
    placed kind first (d :: ds) = ⟨first, d⟩ :: placed kind (first + 1) ds :=
  if_pos h

/-- A directive of another kind is passed over, but takes up a place. -/
lemma placed_cons_of_ne {kind : DirectiveKind} {d : Directive} (h : d.kind ≠ kind) (first : Nat)
    (ds : List Directive) : placed kind first (d :: ds) = placed kind (first + 1) ds :=
  if_neg h

/-- A directive is at the place where it is read.

**Proof sketch.** Induction along the reading.  The place behind the first directive is one less in
the list that follows it. -/
lemma getElem?_of_mem_placed {kind : DirectiveKind} {first : Nat} {ds : List Directive} {p : Placed}
    (h : p ∈ placed kind first ds) : first ≤ p.place ∧ ds[p.place - first]? = some p.directive := by
  fun_induction placed kind first ds with
  | case1 => simp at h
  | case2 first d rest hkind ih =>
    rcases List.mem_cons.mp h with rfl | h
    · simp
    · obtain ⟨hle, hget⟩ := ih h
      have hsub : p.place - first = p.place - (first + 1) + 1 := by omega
      exact ⟨by omega, by rw [hsub, List.getElem?_cons_succ, hget]⟩
  | case3 first d rest hkind ih =>
    obtain ⟨hle, hget⟩ := ih h
    have hsub : p.place - first = p.place - (first + 1) + 1 := by omega
    exact ⟨by omega, by rw [hsub, List.getElem?_cons_succ, hget]⟩

/-- Directives that are read from some place on are not before it. -/
lemma le_place_of_mem_placed {kind : DirectiveKind} {first : Nat} {ds : List Directive} {p : Placed}
    (h : p ∈ placed kind first ds) : first ≤ p.place :=
  (getElem?_of_mem_placed h).1

/-! ## Matchings -/

/-- A block: the directive that begins it and the one that ends it. -/
structure PlacedBlock where
  /-- The beginning. -/
  start : Placed
  /-- The end. -/
  stop : Placed
  deriving DecidableEq

/-- The range of lines of a block. -/
def PlacedBlock.range (block : PlacedBlock) : LineRange :=
  blockRange block.start.directive block.stop.directive

/-- **A matching** of the beginnings and ends of blocks among the directives `ds`, which are read
from place `first` on.  Blocks that were begun before are to be matched as well. -/
structure Matching (first : Nat) (begun : List Placed) (ds : List Directive) where
  /-- The blocks. -/
  blocks : List PlacedBlock
  /-- The beginnings that nothing ends. -/
  unended : List Placed
  /-- The ends that nothing began. -/
  unbegun : List Placed
  /-- Each beginning begins one block, or nothing ends it. -/
  starts : (blocks.map (·.start) ++ unended).Perm (begun ++ placed .blockStart first ds)
  /-- Each end ends one block, or nothing began it. -/
  stops : (blocks.map (·.stop) ++ unbegun).Perm (placed .blockEnd first ds)
  /-- A block begins before it ends. -/
  start_lt_stop : ∀ block ∈ blocks, block.start.place < block.stop.place
  /-- Of two blocks, the one that begins later ends earlier, or begins after the other one's end. -/
  noncrossing : ∀ block ∈ blocks, ∀ later ∈ blocks, block.start.place < later.start.place →
    later.stop.place < block.stop.place ∨ block.stop.place < later.start.place
  /-- The ends that nothing began come before the beginnings that nothing ends. -/
  unbegun_lt_unended : ∀ stop ∈ unbegun, ∀ start ∈ unended, stop.place < start.place

namespace Matching

variable {first : Nat} {begun outer : List Placed} {top : Placed} {d : Directive}
  {ds : List Directive}

/-- A block starts at a directive that starts one, be it among those that were open before. -/
lemma mem_starts (m : Matching first begun ds) {block : PlacedBlock} (h : block ∈ m.blocks) :
    block.start ∈ begun ++ placed .blockStart first ds :=
  m.starts.mem_iff.mp (List.mem_append_left _ (List.mem_map_of_mem h))

/-- A block stops at a directive that ends one. -/
lemma mem_stops (m : Matching first begun ds) {block : PlacedBlock} (h : block ∈ m.blocks) :
    block.stop ∈ placed .blockEnd first ds :=
  m.stops.mem_iff.mp (List.mem_append_left _ (List.mem_map_of_mem h))

/-- Where nothing is read, nothing ends the blocks begun before. -/
def nil (first : Nat) (begun : List Placed) : Matching first begun [] where
  blocks := []
  unended := begun
  unbegun := []
  starts := by simp [placed]
  stops := by simp [placed]
  start_lt_stop := by simp
  noncrossing := by simp
  unbegun_lt_unended := by simp

/-- Directives of other kinds do not matter. -/
def skip (m : Matching (first + 1) begun ds) (hstart : d.kind ≠ .blockStart)
    (hend : d.kind ≠ .blockEnd) : Matching first begun (d :: ds) where
  blocks := m.blocks
  unended := m.unended
  unbegun := m.unbegun
  starts := by
    rw [placed_cons_of_ne hstart]
    exact m.starts
  stops := by
    rw [placed_cons_of_ne hend]
    exact m.stops
  start_lt_stop := m.start_lt_stop
  noncrossing := m.noncrossing
  unbegun_lt_unended := m.unbegun_lt_unended

/-- A beginning is one more block that is begun. -/
def push (m : Matching (first + 1) (⟨first, d⟩ :: begun) ds) (h : d.kind = .blockStart) :
    Matching first begun (d :: ds) where
  blocks := m.blocks
  unended := m.unended
  unbegun := m.unbegun
  starts := by
    rw [placed_cons_of_eq h]
    exact m.starts.trans List.perm_middle.symm
  stops := by
    rw [placed_cons_of_ne (by rw [h]; decide)]
    exact m.stops
  start_lt_stop := m.start_lt_stop
  noncrossing := m.noncrossing
  unbegun_lt_unended := m.unbegun_lt_unended

/-- An end takes the block that was begun last. -/
def pop (m : Matching (first + 1) outer ds) (h : d.kind = .blockEnd)
    (hstack : (first :: (top :: outer).map (·.place)).Pairwise (· > ·)) :
    Matching first (top :: outer) (d :: ds) where
  blocks := ⟨top, first, d⟩ :: m.blocks
  unended := m.unended
  unbegun := m.unbegun
  starts := by
    rw [placed_cons_of_ne (by rw [h]; decide)]
    exact m.starts.cons top
  stops := by
    rw [placed_cons_of_eq h]
    exact m.stops.cons _
  start_lt_stop := by
    rw [List.forall_mem_cons]
    exact ⟨List.rel_of_pairwise_cons hstack List.mem_cons_self, m.start_lt_stop⟩
  noncrossing := by
    -- a block that ends later begins below the top of the stack or behind the end just read
    have hstart : ∀ block ∈ m.blocks,
        block.start.place < top.place ∨ first < block.start.place := by
      intro block hblock
      rcases List.mem_append.mp (m.mem_starts hblock) with hmem | hmem
      · left
        exact List.rel_of_pairwise_cons (List.pairwise_cons.mp hstack).2 (List.mem_map_of_mem hmem)
      · right
        exact le_place_of_mem_placed hmem
    have hstop : ∀ block ∈ m.blocks, first < block.stop.place := fun block hblock =>
      le_place_of_mem_placed (m.mem_stops hblock)
    intro block hblock later hlater hlt
    rcases List.mem_cons.mp hblock with rfl | hblock
    · rcases List.mem_cons.mp hlater with rfl | hlater
      · exact absurd hlt (Nat.lt_irrefl _)
      · right
        exact (hstart later hlater).resolve_left (Nat.lt_asymm hlt)
    · rcases List.mem_cons.mp hlater with rfl | hlater
      · left
        exact hstop block hblock
      · exact m.noncrossing block hblock later hlater hlt
  unbegun_lt_unended := m.unbegun_lt_unended

/-- Where no block is begun, an end ends nothing, and all later beginnings come behind it. -/
def spare (m : Matching (first + 1) [] ds) (h : d.kind = .blockEnd) :
    Matching first [] (d :: ds) where
  blocks := m.blocks
  unended := m.unended
  unbegun := ⟨first, d⟩ :: m.unbegun
  starts := by
    rw [placed_cons_of_ne (by rw [h]; decide)]
    exact m.starts
  stops := by
    rw [placed_cons_of_eq h]
    exact List.perm_middle.trans (m.stops.cons _)
  start_lt_stop := m.start_lt_stop
  noncrossing := m.noncrossing
  unbegun_lt_unended := by
    rw [List.forall_mem_cons]
    refine ⟨fun start hstart => ?_, m.unbegun_lt_unended⟩
    exact le_place_of_mem_placed (m.starts.mem_iff.mp (List.mem_append_right _ hstart))

/-- The ranges of the blocks. -/
def ranges (m : Matching first begun ds) : List LineRange := m.blocks.map (·.range)

/-- The lines of the directives that are not matched. -/
def unmatchedLines (m : Matching first begun ds) : List Int :=
  (m.unended ++ m.unbegun).map (·.directive.line)

end Matching

/-! ## Pairing with a stack -/

/-- The ranges of the function directives. -/
def functionRanges (declarations : Array Int) (total : Int) (ds : List Directive) :
    List LineRange :=
  (ds.filter (·.kind == .function)).filterMap (functionRange? declarations total)

/-- The lines of the function directives that have no range. -/
def rangelessLines (declarations : Array Int) (total : Int) (ds : List Directive) : List Int :=
  (ds.filter fun d =>
    d.kind == .function && (functionRange? declarations total d).isNone).map (·.line)

/-- With no block begun, only a function directive yields a range. -/
lemma functionRanges_cons (declarations : Array Int) (total : Int) (d : Directive)
    (ds : List Directive) :
    functionRanges declarations total (d :: ds) =
      (rangeAt declarations total [] d).toList ++ functionRanges declarations total ds := by
  unfold functionRanges
  rw [List.filter_cons]
  cases hkind : d.kind with
  | function => cases hrange : functionRange? declarations total d <;> simp [rangeAt, hkind, hrange]
  | file | below | blockStart | blockEnd | nextLine | line => simp [rangeAt, hkind]

section NotBlockEnd

variable {d : Directive} (h : d.kind ≠ .blockEnd) (declarations : Array Int) (total : Int)
include h

/-- Ends aside, only a function directive is left over on reading it. -/
lemma rangelessLines_cons (ds : List Directive) :
    rangelessLines declarations total (d :: ds) =
      (unmatchedAt declarations total [] d).toList ++ rangelessLines declarations total ds := by
  unfold rangelessLines
  rw [List.filter_cons]
  cases hkind : d.kind with
  | function =>
    cases hrange : functionRange? declarations total d <;> simp [unmatchedAt, hkind, hrange]
  | blockEnd => exact absurd hkind h
  | file | below | blockStart | nextLine | line => simp [unmatchedAt, hkind]

/-- Only an end looks at the blocks begun. -/
lemma rangeAt_of_ne_blockEnd (begun : List Directive) :
    rangeAt declarations total begun d = rangeAt declarations total [] d := by
  unfold rangeAt
  split <;> simp_all

/-- Whether a directive that ends no block is of effect does not depend on the open blocks. -/
lemma unmatchedAt_of_ne_blockEnd (begun : List Directive) :
    unmatchedAt declarations total begun d = unmatchedAt declarations total [] d := by
  unfold unmatchedAt
  split <;> simp_all

end NotBlockEnd

/-- An end is no function directive. -/
lemma rangelessLines_cons_blockEnd {d : Directive} (h : d.kind = .blockEnd)
    (declarations : Array Int) (total : Int) (ds : List Directive) :
    rangelessLines declarations total (d :: ds) = rangelessLines declarations total ds := by
  rw [rangelessLines, List.filter_cons_of_neg (by simp [h]), rangelessLines]

/-- Directives of other kinds leave the blocks begun as they are. -/
lemma begunAfter_of_ne {d : Directive} (hstart : d.kind ≠ .blockStart) (hend : d.kind ≠ .blockEnd)
    (begun : List Directive) : begunAfter begun d = begun := by
  unfold begunAfter
  split <;> simp_all

/-- Reading on, the blocks begun stay where they are. -/
lemma pairwise_succ_cons {first : Nat} {places : List Nat}
    (h : (first :: places).Pairwise (· > ·)) : ((first + 1) :: places).Pairwise (· > ·) := by
  rw [List.pairwise_cons] at h ⊢
  exact ⟨fun place hplace => Nat.lt_succ_of_lt (h.1 place hplace), h.2⟩

/-- A block that is begun goes on top of the stack. -/
lemma pairwise_succ_cons_cons {first : Nat} {places : List Nat}
    (h : (first :: places).Pairwise (· > ·)) :
    ((first + 1) :: first :: places).Pairwise (· > ·) := by
  refine List.pairwise_cons.mpr ⟨?_, h⟩
  rw [List.forall_mem_cons]
  exact ⟨Nat.lt_succ_self first, (List.pairwise_cons.mp (pairwise_succ_cons h)).1⟩

/-- **Pairing finds a matching.**  The stack holds the blocks begun, the last one first.  What
pairing yields are the ranges of a matching and those of the function directives, and the lines of
the directives that are left over.

**Proof sketch.** Induction on the directives, with the stack as it is before each of them.  A
beginning goes on the stack, an end takes its top or is left over where the stack is empty, a
function directive yields its own range or is left over, and the other directives change nothing. -/
theorem exists_matching_pairUp (declarations : Array Int) (total : Int) (first : Nat)
    (begun : List Placed) (ds : List Directive)
    (hstack : (first :: begun.map (·.place)).Pairwise (· > ·)) :
    ∃ m : Matching first begun ds,
      (pairUp declarations total (begun.map (·.directive)) ds).1.Perm
          (m.ranges ++ functionRanges declarations total ds) ∧
        (pairUp declarations total (begun.map (·.directive)) ds).2.Perm
          (m.unmatchedLines ++ rangelessLines declarations total ds) := by
  induction ds generalizing first begun with
  | nil =>
    refine ⟨Matching.nil first begun, List.Perm.refl _, ?_⟩
    simp [pairUp, Matching.unmatchedLines, Matching.nil, rangelessLines, Function.comp_def]
  | cons d rest ih =>
    rw [pairUp_cons, functionRanges_cons]
    by_cases hend : d.kind = .blockEnd
    · rw [rangelessLines_cons_blockEnd hend]
      simp only [rangeAt, unmatchedAt, begunAfter, hend]
      cases begun with
      | nil =>
        obtain ⟨m, hranges, hlines⟩ := ih (first + 1) [] (pairwise_succ_cons hstack)
        refine ⟨m.spare hend, hranges, ?_⟩
        have hspare : (m.spare hend).unmatchedLines.Perm (d.line :: m.unmatchedLines) :=
          List.perm_middle.map _
        exact (hlines.cons _).trans (hspare.symm.append_right _)
      | cons top outer =>
        have houter : ((first + 1) :: outer.map (·.place)).Pairwise (· > ·) :=
          (pairwise_succ_cons hstack).sublist ((List.sublist_cons_self _ _).cons_cons _)
        obtain ⟨m, hranges, hlines⟩ := ih (first + 1) outer houter
        exact ⟨m.pop hend hstack, hranges.cons _, hlines⟩
    · -- the directive only adds what it yields by itself
      obtain ⟨m, hranges, hlines⟩ : ∃ m : Matching first begun (d :: rest),
          (pairUp declarations total (begunAfter (begun.map (·.directive)) d) rest).1.Perm
              (m.ranges ++ functionRanges declarations total rest) ∧
            (pairUp declarations total (begunAfter (begun.map (·.directive)) d) rest).2.Perm
              (m.unmatchedLines ++ rangelessLines declarations total rest) := by
        by_cases hstart : d.kind = .blockStart
        · obtain ⟨m, hm⟩ := ih (first + 1) (⟨first, d⟩ :: begun) (pairwise_succ_cons_cons hstack)
          refine ⟨m.push hstart, ?_⟩
          simp only [begunAfter, hstart]
          exact hm
        · obtain ⟨m, hm⟩ := ih (first + 1) begun (pairwise_succ_cons hstack)
          refine ⟨m.skip hstart hend, ?_⟩
          rw [begunAfter_of_ne hstart hend]
          exact hm
      rw [rangelessLines_cons hend, rangeAt_of_ne_blockEnd hend, unmatchedAt_of_ne_blockEnd hend]
      exact ⟨m, (hranges.append_left _).trans (List.perm_append_comm_assoc _ _ _),
        (hlines.append_left _).trans (List.perm_append_comm_assoc _ _ _)⟩

/-! ## Lines -/

/-- The directives of a script are read in the order of their lines.

**Proof sketch.** Directives of one line all have its number, and the numbers of lines increase. -/
lemma pairwise_line_directives (first : Int) (script : List (List Char)) :
    (directives (numbered first script)).Pairwise fun a b => a.line ≤ b.line := by
  rw [directives, List.pairwise_flatMap]
  constructor
  · intro line _
    refine List.pairwise_of_forall_mem_list fun a ha b hb => ?_
    rw [Directive.line_of_mem_findOn ha, Directive.line_of_mem_findOn hb]
  · refine (pairwise_numbered first script).imp fun hlt a ha b hb => ?_
    rw [Directive.line_of_mem_findOn ha, Directive.line_of_mem_findOn hb]
    exact Int.le_of_lt hlt

namespace Matching

variable {ds : List Directive} (hlines : ds.Pairwise fun a b => a.line ≤ b.line)
include hlines

/-- A directive that is read later stands on a later line, or on the same one. -/
lemma line_le_line {kind kind' : DirectiveKind} {p q : Placed} (hp : p ∈ placed kind 0 ds)
    (hq : q ∈ placed kind' 0 ds) (hpq : p.place ≤ q.place) :
    p.directive.line ≤ q.directive.line := by
  obtain ⟨hp, hgetp⟩ := List.getElem?_eq_some_iff.mp (getElem?_of_mem_placed hp).2
  obtain ⟨hq, hgetq⟩ := List.getElem?_eq_some_iff.mp (getElem?_of_mem_placed hq).2
  rw [← hgetp, ← hgetq]
  rcases Nat.lt_or_eq_of_le hpq with hlt | heq
  · exact List.pairwise_iff_getElem.mp hlines _ _ hp hq (by omega)
  · simp only [heq]
    exact Int.le_refl _

/-- The lines of a block are in order. -/
lemma first_le_last (m : Matching 0 [] ds) {block : PlacedBlock} (h : block ∈ m.blocks) :
    block.range.first ≤ block.range.last :=
  line_le_line hlines (m.mem_starts h) (m.mem_stops h) (Nat.le_of_lt (m.start_lt_stop block h))

/-- Of two blocks, the one that begins first contains the other one, or they have at most one line
in common.

**Proof sketch.** The blocks do not cross.  Either the later one is closed first, and lines grow
with places, so it lies inside; or the first one is closed before the later one begins, and the two
meet on that line at most. -/
lemma contains_or_meetOnce_of_lt (m : Matching 0 [] ds) {block later : PlacedBlock}
    (hblock : block ∈ m.blocks) (hlater : later ∈ m.blocks)
    (hlt : block.start.place < later.start.place) :
    block.range.Contains later.range ∨ block.range.MeetOnce later.range := by
  rcases m.noncrossing block hblock later hlater hlt with hinner | hbehind
  · left
    have hfirst : block.range.first ≤ later.range.first :=
      line_le_line hlines (m.mem_starts hblock) (m.mem_starts hlater) (Nat.le_of_lt hlt)
    have hlast : later.range.last ≤ block.range.last :=
      line_le_line hlines (m.mem_stops hlater) (m.mem_stops hblock) (Nat.le_of_lt hinner)
    exact fun n hn => ⟨Int.le_trans hfirst hn.1, Int.le_trans hn.2 hlast⟩
  · right
    -- the only line in common is the one where the first block ends and the other one begins
    have hshared : block.range.last ≤ later.range.first :=
      line_le_line hlines (m.mem_stops hblock) (m.mem_starts hlater) (Nat.le_of_lt hbehind)
    rintro k n ⟨-, hk⟩ ⟨hk', -⟩ ⟨-, hn⟩ ⟨hn', -⟩
    omega

/-- Of two blocks one contains the other, or they have at most one line in common.

**Proof sketch.** By which of the two begins first.  If both begin at the same place they begin on
the same line, and the one that ends first lies in the other. -/
lemma contains_or_meetOnce (m : Matching 0 [] ds) {a b : PlacedBlock} (ha : a ∈ m.blocks)
    (hb : b ∈ m.blocks) :
    a.range.Contains b.range ∨ b.range.Contains a.range ∨ a.range.MeetOnce b.range := by
  rcases Nat.lt_trichotomy a.start.place b.start.place with hlt | heq | hgt
  · rcases m.contains_or_meetOnce_of_lt hlines ha hb hlt with hin | honce
    · exact Or.inl hin
    · exact Or.inr (Or.inr honce)
  · -- both begin on the same line, and the one that ends first lies in the other
    have hle : b.range.first ≤ a.range.first :=
      line_le_line hlines (m.mem_starts hb) (m.mem_starts ha) heq.ge
    have hge : a.range.first ≤ b.range.first :=
      line_le_line hlines (m.mem_starts ha) (m.mem_starts hb) heq.le
    rcases Int.le_total b.range.last a.range.last with hlast | hlast
    · exact Or.inl fun n hn => ⟨Int.le_trans hge hn.1, Int.le_trans hn.2 hlast⟩
    · exact Or.inr (Or.inl fun n hn => ⟨Int.le_trans hle hn.1, Int.le_trans hn.2 hlast⟩)
  · rcases m.contains_or_meetOnce_of_lt hlines hb ha hgt with hin | honce
    · exact Or.inr (Or.inl hin)
    · exact Or.inr (Or.inr fun k n hk hk' hn hn' => honce k n hk' hk hn' hn)

end Matching

/-- The range of a function directive has its lines in order. -/
lemma first_le_last_of_functionRange? {script : List (List Char)} {d : Directive}
    {range : LineRange}
    (h : functionRange? (declarationLines (numbered 1 script)).toArray script.length d =
      some range) :
    range.first ≤ range.last := by
  rw [functionRange?_eq_segment] at h
  obtain ⟨segment, -, rfl⟩ := Option.map_eq_some_iff.mp h
  simp only [Segment.lineCount]
  push_cast
  omega

/-- A function directive has no range exactly if no function is declared behind it. -/
lemma isNone_functionRange? {declarations : List Int} (hs : declarations.Pairwise (· < ·))
    (total : Int) (d : Directive) :
    (functionRange? declarations.toArray total d).isNone = declarations.all (· ≤ d.line) := by
  rw [functionRange?_eq hs, Option.isNone_map, Bool.eq_iff_iff, Option.isNone_iff_eq_none,
    List.find?_eq_none, List.all_eq_true]
  simp only [decide_eq_true_eq, Int.not_lt]

/-- The lines noted as having no effect are in increasing order. -/
lemma pairwise_unmatched_ofLines (script : List (List Char)) :
    (ofLines script).unmatched.Pairwise (· ≤ ·) := by
  rw [unmatched_ofLines]
  refine List.Pairwise.imp (R := fun a b : Int => decide (a ≤ b) = true) of_decide_eq_true ?_
  apply List.pairwise_mergeSort
  · intro a b c hab hbc
    simp only [decide_eq_true_eq] at hab hbc ⊢
    exact Int.le_trans hab hbc
  · intro a b
    simp only [Bool.or_eq_true, decide_eq_true_eq]
    exact Int.le_total a b

/-- The function directives of a script behind which no function is declared. -/
def idleFunctionDirectives (script : List (List Char)) : List Directive :=
  (directives (numbered 1 script)).filter fun d =>
    d.kind == .function && (declarationLines (numbered 1 script)).all (· ≤ d.line)

/-- **The blocks of a script.**  The beginnings and ends of blocks have a matching: none is lost or
used twice, blocks do not cross, and ends that nothing began come before beginnings that nothing
ends.  The index holds the ranges of its blocks and those of the function directives.  Of two blocks
one contains the other, or they have at most one line in common, and no range is inverted.  The
lines noted as having no effect are, in increasing order and each as often as it occurs, those of
the directives left over by the matching and of the function directives with no function behind
them.

**Proof sketch.** The pairing by a stack gives the matching, the ranges and the lines left over, all
up to their order; sorting changes the order only.  That no range is inverted is shown apart for
blocks and for function directives. -/
theorem exists_matching_ofLines (script : List (List Char)) :
    ∃ m : Matching 0 [] (directives (numbered 1 script)),
      (ofLines script).ranges.Perm
          (m.blocks.map (·.range) ++ functionRanges (declarationLines (numbered 1 script)).toArray
            script.length (directives (numbered 1 script))) ∧
        (∀ a ∈ m.blocks, ∀ b ∈ m.blocks, a.range.Contains b.range ∨ b.range.Contains a.range ∨
          a.range.MeetOnce b.range) ∧
        (∀ range ∈ (ofLines script).ranges, range.first ≤ range.last) ∧
        (ofLines script).unmatched.Pairwise (· ≤ ·) ∧
        (ofLines script).unmatched.Perm
          (m.unended.map (·.directive.line) ++ m.unbegun.map (·.directive.line) ++
            (idleFunctionDirectives script).map (·.line)) := by
  have hlines := pairwise_line_directives 1 script
  obtain ⟨m, hranges, hunmatched⟩ := exists_matching_pairUp
    (declarationLines (numbered 1 script)).toArray script.length 0 []
    (directives (numbered 1 script)) (List.pairwise_singleton _ _)
  have hsorted : (ofLines script).ranges.Perm (m.ranges ++ functionRanges
      (declarationLines (numbered 1 script)).toArray script.length
      (directives (numbered 1 script))) :=
    (List.mergeSort_perm _ _).trans hranges
  refine ⟨m, hsorted, ?_, ?_, pairwise_unmatched_ofLines script, ?_⟩
  · exact fun a ha b hb => m.contains_or_meetOnce hlines ha hb
  · intro range hrange
    rcases List.mem_append.mp (hsorted.mem_iff.mp hrange) with hblock | hfunction
    · obtain ⟨block, hmem, rfl⟩ := List.mem_map.mp hblock
      exact m.first_le_last hlines hmem
    · obtain ⟨d, -, hd⟩ := List.mem_filterMap.mp hfunction
      exact first_le_last_of_functionRange? hd
  · refine (List.mergeSort_perm _ _).trans (hunmatched.trans ?_)
    simp only [Matching.unmatchedLines, List.map_append, rangelessLines, idleFunctionDirectives,
      isNone_functionRange? (pairwise_declarationLines 1 script)]
    exact List.Perm.refl _

end Suppression

end ScriptAudit
