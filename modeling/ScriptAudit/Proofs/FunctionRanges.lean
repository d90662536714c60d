import Mathlib.Data.List.Find
import Mathlib.Tactic.Common
import ScriptAudit.Function.Metrics
import ScriptAudit.Proofs.Lookup
import ScriptAudit.Proofs.Reading

/-!
# Ranges of function directives

Where the functions of a script begin and end is found in two ways.  The scan of the functions
divides the lines at the declarations; the index looks for the declaration behind a directive in the
sorted list of their lines.  Both find the same functions.

## Main definitions

* `ScriptAudit.Suppression.Declares` — a line declares a function.
* `ScriptAudit.Suppression.IsNextDeclaration`, `ScriptAudit.Suppression.IsFunctionSpan` — the first
  declaration behind a line, and the lines of the function that it declares.

## Main results

* `ScriptAudit.Suppression.functionRange?_eq_some_iff` — the range of a function directive,
  described by the declarations of the script alone.
* `ScriptAudit.Suppression.functionRange?_eq_segment` — the range of a function directive is that of
  the first segment behind it.
-/

set_option relaxedAutoImplicit false
set_option autoImplicit false

namespace ScriptAudit.Suppression

open Script Text

/-! ## The first number behind a given one -/

/-- If the first `n` entries of a list are those that are at most `x`, the next entry is the first
one that is greater.

**Proof sketch.** If there is an entry at position `n`, it is greater and all before it are not.  If
there is none, no entry is greater. -/
lemma find?_lt_eq_getElem? (xs : List Int) (x : Int) (n : Nat)
    (h : ∀ j (hj : j < xs.length), j < n ↔ xs[j] ≤ x) : xs.find? (x < ·) = xs[n]? := by
  by_cases hn : n < xs.length
  · rw [List.getElem?_eq_getElem hn, List.find?_eq_some_iff_getElem]
    refine ⟨?_, n, hn, rfl, fun j hj => ?_⟩
    · have hgt := (h n hn).not.mp (Nat.lt_irrefl n)
      simpa using hgt
    · have hle := (h j (by omega)).mp hj
      simpa using hle
  · rw [List.getElem?_eq_none (Nat.not_lt.mp hn), List.find?_eq_none]
    intro y hy
    obtain ⟨j, hj, rfl⟩ := List.mem_iff_getElem.mp hy
    have hle := (h j hj).mp (by omega)
    simpa using hle

/-- Binary search finds the first entry that is greater than a number. -/
lemma getElem?_upperBound {xs : List Int} (hs : xs.Pairwise (· < ·)) (x : Int) :
    xs[upperBound xs.toArray x]? = xs.find? (x < ·) := by
  symm
  apply find?_lt_eq_getElem?
  intro j hj
  exact lt_upperBound_iff (hs.imp Int.le_of_lt) x hj

/-- In a strictly increasing list, the entry behind one is the first greater one.

**Proof sketch.** The entries up to this one are those that are at most as great as it, since the
list increases strictly; so `find?_lt_eq_getElem?` applies. -/
lemma getElem?_succ_eq_find? {xs : List Int} (hs : xs.Pairwise (· < ·)) {n : Nat} {s : Int}
    (hn : xs[n]? = some s) : xs[n + 1]? = xs.find? (s < ·) := by
  obtain ⟨hlt, rfl⟩ := List.getElem?_eq_some_iff.mp hn
  symm
  apply find?_lt_eq_getElem?
  intro j hj
  rcases Nat.lt_trichotomy j n with h | rfl | h
  · have := List.pairwise_iff_getElem.mp hs j n hj hlt h
    exact ⟨fun _ => Int.le_of_lt this, fun _ => by omega⟩
  · exact ⟨fun _ => Int.le_refl _, fun _ => Nat.lt_succ_self j⟩
  · have := List.pairwise_iff_getElem.mp hs n j hlt hj h
    exact ⟨fun _ => by omega, fun _ => by omega⟩

/-- The last line of the function that is declared on line `s`: the one before the next declaration,
or the last one of the script. -/
def lastLine (declarations : List Int) (total s : Int) : Int :=
  ((declarations.find? (s < ·)).map (· - 1)).getD total

/-- **The range of a function directive** begins with the first declaration behind the directive and
ends before the next one.

**Proof sketch.** The search gives the position of the first declaration behind the directive.  The
entry at the next position is the first declaration behind that one, since the declarations
increase. -/
lemma functionRange?_eq {declarations : List Int} (hs : declarations.Pairwise (· < ·)) (total : Int)
    (d : Directive) :
    functionRange? declarations.toArray total d =
      (declarations.find? (d.line < ·)).map fun s =>
        ⟨s, lastLine declarations total s, d.ids⟩ := by
  simp only [functionRange?, List.getElem?_toArray]
  rw [← getElem?_upperBound hs]
  cases hfirst : declarations[upperBound declarations.toArray d.line]? with
  | none => rfl
  | some s =>
    rw [getElem?_succ_eq_find? hs hfirst]
    simp only [Option.map_some, lastLine]
    cases declarations.find? (s < ·) <;> rfl

/-! ## Declarations -/

/-- Line `m` of a script declares a function. -/
def Declares (script : List (List Char)) (m : Int) : Prop :=
  ∃ (i : Nat) (raw : List Char), script[i]? = some raw ∧ isFunctionDeclaration (trim raw) = true ∧
    m = i + 1

/-- Line `s` is the first one behind line `k` that declares a function. -/
def IsNextDeclaration (script : List (List Char)) (k s : Int) : Prop :=
  Declares script s ∧ k < s ∧ ∀ m, Declares script m → k < m → s ≤ m

/-- The first function declared behind line `k` is declared on line `s` and ends with line `e`: the
one before the next declaration, or the last one of the script if there is no further
declaration. -/
def IsFunctionSpan (script : List (List Char)) (k s e : Int) : Prop :=
  IsNextDeclaration script k s ∧
    (IsNextDeclaration script s (e + 1) ∨ (¬ ∃ m, Declares script m ∧ s < m) ∧ e = script.length)

/-- The declarations of numbered lines are on the lines that declare functions. -/
lemma mem_declarationLines_iff (first : Int) (script : List (List Char)) (m : Int) :
    m ∈ declarationLines (numbered first script) ↔
      ∃ (i : Nat) (raw : List Char), script[i]? = some raw ∧
        isFunctionDeclaration (trim raw) = true ∧ m = first + i := by
  simp only [declarationLines, List.mem_map, List.mem_filter, mem_numbered_iff]
  constructor
  · rintro ⟨line, ⟨⟨i, hraw, hnumber⟩, hdecl⟩, rfl⟩
    exact ⟨i, line.raw, hraw, hdecl, hnumber⟩
  · rintro ⟨i, raw, hraw, hdecl, rfl⟩
    exact ⟨⟨first + i, raw⟩, ⟨⟨i, hraw, rfl⟩, hdecl⟩, rfl⟩

/-- The declarations of a script are on the lines that declare functions. -/
lemma mem_declarationLines_one_iff (script : List (List Char)) (m : Int) :
    m ∈ declarationLines (numbered 1 script) ↔ Declares script m := by
  simp only [mem_declarationLines_iff, Declares, Int.add_comm 1]

/-- The lines of declarations increase. -/
lemma pairwise_declarationLines (first : Int) (script : List (List Char)) :
    (declarationLines (numbered first script)).Pairwise (· < ·) :=
  List.pairwise_map.mpr ((pairwise_numbered first script).filter _)

/-- The first entry behind a number, in an increasing list, is the least one. -/
lemma le_of_find?_lt_eq_some {xs : List Int} (hs : xs.Pairwise (· < ·)) {k s m : Int}
    (h : xs.find? (k < ·) = some s) (hm : m ∈ xs) (hkm : k < m) : s ≤ m := by
  obtain ⟨-, before, after, rfl, hbefore⟩ := List.find?_eq_some_iff_append.mp h
  rcases List.mem_append.mp hm with hm | hm
  · exact absurd hkm (by simpa using hbefore m hm)
  · rcases List.mem_cons.mp hm with rfl | hm
    · exact Int.le_refl _
    · exact Int.le_of_lt (List.rel_of_pairwise_cons (List.pairwise_append.mp hs).2.1 hm)

/-- An entry is found if and only if it is the least one behind the number.

**Proof sketch.** The entry that is found is the least one, since the list increases.  Conversely
something is found, and two least entries are equal. -/
lemma find?_lt_eq_some_iff {xs : List Int} (hs : xs.Pairwise (· < ·)) (k s : Int) :
    xs.find? (k < ·) = some s ↔ s ∈ xs ∧ k < s ∧ ∀ m ∈ xs, k < m → s ≤ m := by
  constructor
  · intro h
    exact ⟨List.mem_of_find?_eq_some h, by simpa using List.find?_some h,
      fun m hm hkm => le_of_find?_lt_eq_some hs h hm hkm⟩
  · rintro ⟨hmem, hks, hleast⟩
    obtain ⟨t, ht⟩ : ∃ t, xs.find? (k < ·) = some t := by
      rw [← Option.isSome_iff_exists, List.find?_isSome]
      exact ⟨s, hmem, by simpa using hks⟩
    have hts : t ≤ s := le_of_find?_lt_eq_some hs ht hmem hks
    have hst : s ≤ t := hleast t (List.mem_of_find?_eq_some ht) (by simpa using List.find?_some ht)
    rw [ht, Int.le_antisymm hts hst]

/-- The first entry behind line `k` in the list of declarations is the next declaration. -/
lemma find?_declarationLines_eq_some_iff (script : List (List Char)) (k s : Int) :
    (declarationLines (numbered 1 script)).find? (k < ·) = some s ↔
      IsNextDeclaration script k s := by
  rw [find?_lt_eq_some_iff (pairwise_declarationLines 1 script)]
  simp only [mem_declarationLines_one_iff, IsNextDeclaration]

/-- The last line of a function is the one before the next declaration, or the last one of the
script.

**Proof sketch.** By whether a declaration follows.  If one does, it is the next one and the
function ends on the line before it; if not, the function ends with the script. -/
lemma lastLine_eq_iff (script : List (List Char)) (s e : Int) :
    lastLine (declarationLines (numbered 1 script)) script.length s = e ↔
      IsNextDeclaration script s (e + 1) ∨
        (¬ ∃ m, Declares script m ∧ s < m) ∧ e = script.length := by
  unfold lastLine
  cases hnext : (declarationLines (numbered 1 script)).find? (s < ·) with
  | none =>
    have hnone : ¬ ∃ m, Declares script m ∧ s < m := by
      rintro ⟨m, hm, hsm⟩
      have hle := List.find?_eq_none.mp hnext m ((mem_declarationLines_one_iff script m).mpr hm)
      exact hle (decide_eq_true hsm)
    have hno : ¬ IsNextDeclaration script s (e + 1) := fun h => hnone ⟨e + 1, h.1, h.2.1⟩
    simp [hnone, hno, eq_comm]
  | some t =>
    have ht := (find?_declarationLines_eq_some_iff script s t).mp hnext
    rw [Option.map_some, Option.getD_some]
    constructor
    · rintro rfl
      rw [Int.sub_add_cancel]
      exact Or.inl ht
    · rintro (he | ⟨hnone, -⟩)
      · rw [← find?_declarationLines_eq_some_iff, hnext, Option.some_inj] at he
        omega
      · exact absurd ⟨t, ht.1, ht.2.1⟩ hnone

/-- **The range of a function directive** on line `k` is that of the first function declared behind
it. -/
theorem functionRange?_eq_some_iff (script : List (List Char)) (d : Directive) (range : LineRange) :
    functionRange? (declarationLines (numbered 1 script)).toArray script.length d = some range ↔
      IsFunctionSpan script d.line range.first range.last ∧ range.ids = d.ids := by
  rw [functionRange?_eq (pairwise_declarationLines 1 script), Option.map_eq_some_iff]
  unfold IsFunctionSpan
  rw [← lastLine_eq_iff, ← find?_declarationLines_eq_some_iff]
  constructor
  · rintro ⟨s, hs, rfl⟩
    exact ⟨⟨hs, rfl⟩, rfl⟩
  · rintro ⟨⟨hs, he⟩, hids⟩
    exact ⟨range.first, hs, by rw [he, ← hids]⟩

/-! ## Segments -/

/-- The first of some numbered lines is a declaration, or the declarations are those below it. -/
lemma declarationLines_cons (first : Int) (raw : List Char) (rest : List (List Char)) :
    declarationLines (numbered first (raw :: rest)) =
      if Segment.isStart raw then first :: declarationLines (numbered (first + 1) rest)
      else declarationLines (numbered (first + 1) rest) := by
  unfold declarationLines
  rw [numbered_cons, List.filter_cons]
  split_ifs with hfilter hstart hstart
  · rfl
  · exact absurd hfilter hstart
  · exact absurd hstart hfilter
  · rfl

/-- Declarations are not before the first line. -/
lemma le_of_mem_declarationLines {first m : Int} {script : List (List Char)}
    (h : m ∈ declarationLines (numbered first script)) : first ≤ m := by
  obtain ⟨i, -, -, -, rfl⟩ := (mem_declarationLines_iff first script m).mp h
  omega

/-- The segments of a script begin at its declarations. -/
lemma map_startLine_divide (first : Int) (script : List (List Char)) :
    (Segment.divide first script).2.map (·.startLine) =
      declarationLines (numbered first script) := by
  induction script generalizing first with
  | nil => rfl
  | cons raw rest ih =>
    rw [declarationLines_cons, ← ih]
    cases hstart : Segment.isStart raw <;> simp [Segment.divide, hstart]

/-- A declaration that is not behind line `s` does not end a function declared there. -/
lemma lastLine_cons_of_le {first s : Int} (h : first ≤ s) (declarations : List Int) (total : Int) :
    lastLine (first :: declarations) total s = lastLine declarations total s := by
  simp [lastLine, h]

/-- A declaration behind line `s` ends a function declared there. -/
lemma lastLine_cons_of_lt {first s : Int} (h : s < first) (declarations : List Int) (total : Int) :
    lastLine (first :: declarations) total s = first - 1 := by
  simp [lastLine, h]

/-- The last line only depends on which declarations are behind the line. -/
lemma lastLine_congr {declarations : List Int} {s t : Int}
    (h : ∀ m ∈ declarations, s < m ↔ t < m) (total : Int) :
    lastLine declarations total s = lastLine declarations total t := by
  unfold lastLine
  rw [List.find?_congr fun m hm => decide_eq_decide.mpr (h m hm)]

/-- Lines numbered from `first` on end where those below the first one do. -/
lemma add_length_cons (first : Int) (raw : List Char) (rest : List (List Char)) :
    first + ((raw :: rest).length : Int) - 1 = first + 1 + rest.length - 1 := by
  rw [List.length_cons]
  push_cast
  omega

/-- A function declared right before the given lines would end with the lines before the first
declaration.

**Proof sketch.** Induction on the lines.  A declaration on the first line ends the function right
there.  Any other line is added to those before the first declaration, and the next declaration
stays the same. -/
lemma lastLine_divide_fst (first : Int) (script : List (List Char)) :
    lastLine (declarationLines (numbered first script)) (first + script.length - 1) (first - 1) =
      first - 1 + (Segment.divide first script).1.length := by
  induction script generalizing first with
  | nil => simp [lastLine, declarationLines, Segment.divide]
  | cons raw rest ih =>
    rw [declarationLines_cons, add_length_cons]
    cases hstart : Segment.isStart raw with
    | true =>
      rw [if_pos rfl, lastLine_cons_of_lt (by omega)]
      simp [Segment.divide, hstart]
    | false =>
      -- no declaration stands on the first line, so the same one is next
      have hnext : ∀ m ∈ declarationLines (numbered (first + 1) rest),
          first - 1 < m ↔ first + 1 - 1 < m := by
        intro m hm
        have hle := le_of_mem_declarationLines hm
        omega
      rw [if_neg (by simp), lastLine_congr hnext, ih]
      simp only [Segment.divide, hstart, Bool.false_eq_true, if_false, List.length_cons]
      push_cast
      omega

/-- **The lines of a segment** reach up to the next declaration.

**Proof sketch.** Induction on the lines.  A segment that begins on the first line has the lines
before the next declaration as its body.  The others are segments of the lines below, and the first
line lies before them. -/
lemma lastLine_divide {first : Int} {script : List (List Char)} {segment : Segment}
    (h : segment ∈ (Segment.divide first script).2) :
    lastLine (declarationLines (numbered first script)) (first + script.length - 1)
      segment.startLine = segment.startLine + segment.lineCount - 1 := by
  induction script generalizing first with
  | nil => simp [Segment.divide] at h
  | cons raw rest ih =>
    rw [declarationLines_cons, add_length_cons]
    cases hstart : Segment.isStart raw with
    | false =>
      simp only [Segment.divide, hstart, Bool.false_eq_true, if_false] at h ⊢
      exact ih h
    | true =>
      simp only [Segment.divide, hstart, if_true, List.mem_cons] at h ⊢
      rcases h with rfl | h
      · have hbody := lastLine_divide_fst (first + 1) rest
        rw [Int.add_sub_cancel] at hbody
        rw [lastLine_cons_of_le (Int.le_refl _), hbody, Segment.lineCount]
        push_cast
        omega
      · have hbelow : segment.startLine ∈ declarationLines (numbered (first + 1) rest) := by
          rw [← map_startLine_divide]
          exact List.mem_map_of_mem h
        have hle := le_of_mem_declarationLines hbelow
        rw [lastLine_cons_of_le (by omega)]
        exact ih h

/-- **The range of a function directive** is that of the first segment behind it.

**Proof sketch.** The declarations are the first lines of the segments, so the first declaration
behind the directive begins the first segment behind it.  The last line of that function is the last
line of its segment. -/
theorem functionRange?_eq_segment (script : List (List Char)) (d : Directive) :
    functionRange? (declarationLines (numbered 1 script)).toArray script.length d =
      ((Segment.ofLines script).find? (d.line < ·.startLine)).map fun segment =>
        ⟨segment.startLine, segment.startLine + segment.lineCount - 1, d.ids⟩ := by
  rw [functionRange?_eq (pairwise_declarationLines 1 script)]
  have hstarts := map_startLine_divide 1 script
  rw [← hstarts, List.find?_map, Option.map_map, hstarts]
  cases hfind : (Segment.ofLines script).find? (d.line < ·.startLine) with
  | none =>
    rw [Option.map_none, Option.map_eq_none_iff]
    exact hfind
  | some segment =>
    have hlast := lastLine_divide (List.mem_of_find?_eq_some hfind)
    rw [Int.add_comm 1, Int.add_sub_cancel] at hlast
    rw [Option.map_some, Option.map_eq_some_iff]
    refine ⟨segment, hfind, ?_⟩
    simp only [Function.comp_apply, hlast]

/-! ## The index and the scan of the functions -/

/-- **A function directive** adds its own range to those of all other directives, or its line to the
lines without effect.

**Proof sketch.** Induction on the directives read before it.  The directive leaves the blocks begun
as they are, so the directives behind it are paired as if it were not there. -/
lemma pairUp_insert_function {d : Directive} (hkind : d.kind = .function) (declarations : Array Int)
    (total : Int) (begun before after : List Directive) :
    (pairUp declarations total begun (before ++ d :: after)).1.Perm
        ((functionRange? declarations total d).toList ++
          (pairUp declarations total begun (before ++ after)).1) ∧
      (pairUp declarations total begun (before ++ d :: after)).2.Perm
        ((if (functionRange? declarations total d).isSome then none else some d.line).toList ++
          (pairUp declarations total begun (before ++ after)).2) := by
  induction before generalizing begun with
  | nil =>
    rw [List.nil_append, List.nil_append, pairUp_cons]
    simp only [rangeAt, unmatchedAt, begunAfter, hkind]
    exact ⟨List.Perm.refl _, List.Perm.refl _⟩
  | cons x rest ih =>
    obtain ⟨hranges, hlines⟩ := ih (begunAfter begun x)
    rw [List.cons_append, List.cons_append, pairUp_cons, pairUp_cons]
    constructor
    · exact (hranges.append_left _).trans (List.perm_append_comm_assoc _ _ _)
    · exact (hlines.append_left _).trans (List.perm_append_comm_assoc _ _ _)

/-- **The index and the scan of the functions agree.**  If a function is declared behind a function
directive on line `k`, the range of the directive consists of the lines of the first such function
as it is measured, and the index holds this range beside those of all other directives.  If there is
no such function, the directive has no range, and the index notes its line beside the other lines
without effect.

**Proof sketch.** Taking a function directive out of those read changes nothing for the others, by
`pairUp_insert_function`.  Its own range is that of the first segment behind it, and a segment is
measured on all its lines. -/
theorem ranges_perm_of_function_directive (settings : Settings)
    {script : List (List Char)} {k : Int}
    {before after : List Directive} {d : Directive} (hoccurs : Occurs script k before d after)
    (hkind : d.kind = .function) :
    match (Segment.ofLines script).find? (k < ·.startLine) with
    | some segment =>
      let range : LineRange :=
        ⟨segment.startLine, segment.startLine + (segment.measure settings).lineCount - 1, d.ids⟩
      functionRange? (declarationLines (numbered 1 script)).toArray script.length d = some range ∧
        (ofLines script).ranges.Perm (range :: (pairing script (before ++ after)).1) ∧
        (ofLines script).unmatched.Perm (pairing script (before ++ after)).2
    | none =>
      functionRange? (declarationLines (numbered 1 script)).toArray script.length d = none ∧
        (ofLines script).ranges.Perm (pairing script (before ++ after)).1 ∧
        (ofLines script).unmatched.Perm (k :: (pairing script (before ++ after)).2) := by
  obtain ⟨hread, rfl⟩ := (occurs_iff script k before d after).mp hoccurs
  have hrange := functionRange?_eq_segment script d
  obtain ⟨hranges, hlines⟩ := pairUp_insert_function hkind
    (declarationLines (numbered 1 script)).toArray script.length [] before after
  rw [ranges_ofLines, unmatched_ofLines, hread]
  cases hfind : (Segment.ofLines script).find? (d.line < ·.startLine) with
  | none =>
    rw [hfind, Option.map_none] at hrange
    rw [hrange] at hranges hlines
    exact ⟨hrange, (List.mergeSort_perm _ _).trans hranges, (List.mergeSort_perm _ _).trans hlines⟩
  | some segment =>
    rw [hfind, Option.map_some] at hrange
    rw [hrange] at hranges hlines
    exact ⟨hrange, (List.mergeSort_perm _ _).trans hranges, (List.mergeSort_perm _ _).trans hlines⟩

/-- Two functions, a block over the first one, and a function directive in either of them. -/
def twoFunctions : List (List Char) :=
  ["# qube:ignore-block-start:long-line".toList,
   "func a(): # qube:ignore-function:long-function".toList,
   "\tpass # qube:ignore-block-end".toList,
   "func b(x):".toList,
   "\tpass # qube:ignore-function".toList]

/-- The directive on the declaration of the first function is about the second one; the directive in
the second one is about none. -/
theorem ranges_perm_of_function_directive_twoFunctions :
    Occurs twoFunctions 2 [⟨.blockStart, 1, ["long-line"]⟩] ⟨.function, 2, ["long-function"]⟩
        [⟨.blockEnd, 3, []⟩, ⟨.function, 5, []⟩] ∧
      (ofLines twoFunctions).ranges.Perm [⟨4, 5, ["long-function"]⟩, ⟨1, 3, ["long-line"]⟩] ∧
      (ofLines twoFunctions).unmatched.Perm [5] := by
  have hfirst : Occurs twoFunctions 2 [⟨.blockStart, 1, ["long-line"]⟩]
      ⟨.function, 2, ["long-function"]⟩ [⟨.blockEnd, 3, []⟩, ⟨.function, 5, []⟩] :=
    (occurs_iff ..).mpr ⟨by decide +kernel, rfl⟩
  have hsegment : (Segment.ofLines twoFunctions).find? (2 < ·.startLine) =
      some ⟨4, "func b(x):".toList, ["\tpass # qube:ignore-function".toList]⟩ := by decide +kernel
  have hothers : pairing twoFunctions
      [⟨.blockStart, 1, ["long-line"]⟩, ⟨.blockEnd, 3, []⟩, ⟨.function, 5, []⟩] =
      ([⟨1, 3, ["long-line"]⟩], [5]) := by decide +kernel
  have h := ranges_perm_of_function_directive {} hfirst rfl
  rw [hsegment] at h
  obtain ⟨-, hranges, hunmatched⟩ := h
  rw [List.singleton_append, hothers] at hranges hunmatched
  exact ⟨hfirst, hranges, hunmatched⟩

end ScriptAudit.Suppression
