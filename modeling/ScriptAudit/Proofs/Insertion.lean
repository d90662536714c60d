import Mathlib.Tactic.Common
import ScriptAudit.Proofs.DirectiveScope
import ScriptAudit.Proofs.Renumbering
import ScriptAudit.Proofs.Wording

/-!
# Inserting a comment into a script

To leave out some checks on a line, a comment with a directive is put on a line of its own before
it.  All lines below then have other numbers, and so have the directives and declarations on them.
The index of the new script says about each line what the index of the old one said, and leaves out
the checks named in the comment on the line below it.

Two things may not be disturbed.  A directive about the next line that stands right before the
comment is now about the comment, and a file directive on the last line of the header would be moved
out of it.

## Main definitions

* `ScriptAudit.Suppression.shifted` — the numbers of the lines after an insertion.
* `ScriptAudit.Suppression.insertLine`, `ScriptAudit.Suppression.nextLineComment` — a script with
  another line, and the comment.

## Main results

* `ScriptAudit.Suppression.directives_insert`, `ScriptAudit.Suppression.declarationLines_insert` —
  the directives and declarations of a script with another line.
* `ScriptAudit.Suppression.hides_insertLine_iff` — what the index says after a comment was inserted.
-/

set_option relaxedAutoImplicit false
set_option autoImplicit false

namespace ScriptAudit.Suppression

open Script Text

/-! ## Numbers of lines -/

/-- The number that line `m` has after another line was inserted as line `i`. -/
def shifted (i m : Int) : Int := if m < i then m else m + 1

/-- Lines above the inserted one keep their numbers. -/
lemma shifted_of_lt {i m : Int} (h : m < i) : shifted i m = m := if_pos h

/-- Lines from the inserted one on move down by one. -/
lemma shifted_of_le {i m : Int} (h : i ≤ m) : shifted i m = m + 1 := if_neg (Int.not_lt.mpr h)

/-- Lines stay in their order. -/
lemma keepsOrder_shifted (i : Int) : KeepsOrder (shifted i) := by
  intro m n
  unfold shifted
  split_ifs <;> omega

/-- A script with another line, which becomes line `i`. -/
def insertLine (script : List (List Char)) (i : Nat) (raw : List Char) : List (List Char) :=
  script.take (i - 1) ++ raw :: script.drop (i - 1)

/-! ## The parts of a script with another line -/

section Insert

variable {above : List (List Char)} {i : Int} (hi : i = above.length + 1) (raw : List Char)
  (below : List (List Char))
include hi

/-- The lines of a script with another line: those above it, the line itself, and those below it
with their new numbers. -/
lemma numbered_insert :
    numbered 1 (above ++ raw :: below) =
      (numbered 1 above).map (.renumber (shifted i)) ++
        ⟨i, raw⟩ :: (numbered i below).map (.renumber (shifted i)) := by
  have habove : (numbered 1 above).map (.renumber (shifted i)) = numbered 1 above :=
    map_renumber_numbered fun k hk => shifted_of_lt (by omega)
  have hbelow : (numbered i below).map (.renumber (shifted i)) = numbered (i + 1) below :=
    map_renumber_numbered fun k _ => by
      rw [shifted_of_le (by omega)]
      omega
  rw [numbered_append, numbered_cons, habove, hbelow, Int.add_comm 1, ← hi]

/-- The lines below are numbered on from those above. -/
lemma numbered_split : numbered 1 (above ++ below) = numbered 1 above ++ numbered i below := by
  rw [numbered_append, Int.add_comm 1, ← hi]

/-- **The directives of a script with another line** are the old ones, on lines with their new
numbers, and between them those of the new line. -/
lemma directives_insert :
    directives (numbered 1 (above ++ raw :: below)) =
      (directives (numbered 1 above)).map (.renumber (shifted i)) ++
        (Directive.findOn i raw ++ (directives (numbered i below)).map
          (.renumber (shifted i))) := by
  rw [numbered_insert hi, directives_append, directives_cons, directives_map_renumber,
    directives_map_renumber]

/-- **The declarations of a script with another line** that declares no function. -/
lemma declarationLines_insert (hraw : isFunctionDeclaration (trim raw) = false) :
    declarationLines (numbered 1 (above ++ raw :: below)) =
      (declarationLines (numbered 1 (above ++ below))).map (shifted i) := by
  have hnew : isFunctionDeclaration (Line.text ⟨i, raw⟩) = false := hraw
  rw [← declarationLines_map_renumber, numbered_insert hi, numbered_split hi, List.map_append]
  simp only [declarationLines, List.filter_append, List.filter_cons, hnew,
    Bool.false_eq_true, if_false]

end Insert

/-- A directive about the next line plays no part in the pairing. -/
lemma pairUp_insert_nextLine {d : Directive} (hkind : d.kind = .nextLine) (declarations : Array Int)
    (total : Int) (begun before after : List Directive) :
    pairUp declarations total begun (before ++ d :: after) =
      pairUp declarations total begun (before ++ after) := by
  induction before generalizing begun with
  | nil =>
    rw [List.nil_append, List.nil_append, pairUp_cons]
    simp [rangeAt, unmatchedAt, begunAfter, hkind]
  | cons x rest ih => rw [List.cons_append, List.cons_append, pairUp_cons, pairUp_cons, ih]

/-! ## The comment -/

/-- A comment that asks for some checks to be left out on the next line. -/
def nextLineComment (ids : List String) : List Char :=
  "# qube:ignore-next-line:".toList ++ Directive.joined ids

/-- The comment declares no function. -/
lemma isFunctionDeclaration_nextLineComment (ids : List String) :
    isFunctionDeclaration (trim (nextLineComment ids)) = false := by
  have hhead : "# qube:ignore-next-line:".toList = '#' :: " qube:ignore-next-line:".toList := by
    decide +kernel
  obtain ⟨rest, hrest⟩ : ∃ rest, nextLineComment ids = '#' :: rest :=
    ⟨_, congrArg (· ++ Directive.joined ids) hhead⟩
  have hstart : trimStart ('#' :: rest) = '#' :: rest := List.dropWhile_cons_of_neg (by decide)
  have hend : trimEnd ('#' :: rest) = '#' :: trimEnd rest := trimEnd_append_cons (by decide) [] rest
  rw [hrest, trim, hstart, hend]
  rfl

section Comment

variable {ids : List String} (hids : ∀ id ∈ ids, Directive.isListable id = true) (hne : ids ≠ [])
include hids hne

/-- The comment is a written directive behind a number sign. -/
lemma nextLineComment_eq_text :
    nextLineComment ids = ['#', ' '] ++ (Directive.Wording.mk .nextLine ids hids).text := by
  have hhead : "# qube:ignore-next-line:".toList =
      ['#', ' '] ++ (Directive.marker ++ (DirectiveKind.nextLine.keyword.toList ++ [':'])) := by
    decide +kernel
  have hlist : (Directive.Wording.mk .nextLine ids hids).list = [':'] ++ Directive.joined ids :=
    if_neg hne
  have hassoc (a b c d e : List Char) :
      a ++ (b ++ (c ++ d)) ++ e = a ++ (b ++ (c ++ (d ++ e))) := by
    simp only [List.append_assoc]
  unfold nextLineComment Directive.Wording.text
  rw [hlist, hhead]
  exact hassoc _ _ _ _ _

/-- The comment holds one directive. -/
lemma findOn_nextLineComment (line : Int) :
    Directive.findOn line (nextLineComment ids) = [⟨.nextLine, line, ids⟩] := by
  have hfree : ¬ Directive.marker <:+: ['#', ' '] := by decide +kernel
  have hend : ([] : List Char).head?.all isBlank = true := rfl
  have hfound := Directive.findFrom_text line hfree (.mk .nextLine ids hids) hend
  rw [List.append_nil, ← nextLineComment_eq_text hids hne] at hfound
  exact hfound

variable {above : List (List Char)} {i : Int} (hi : i = above.length + 1) (below : List (List Char))
include hi

/-- **The directives of one kind** that are about a check, in the new script: the old ones under
their new numbers, and that of the comment.

**Proof sketch.** The directives of the new script are those of the old one, renumbered, and the one
of the comment, which is about the next line. -/
lemma exists_kind_insert_iff (kind : DirectiveKind) (p q : Int → Prop) (id : String)
    (h : ∀ d ∈ directives (numbered 1 (above ++ below)), d.kind = kind →
      (p (shifted i d.line) ↔ q d.line)) :
    (∃ d ∈ directives (numbered 1 (above ++ nextLineComment ids :: below)),
        d.kind = kind ∧ p d.line ∧ d.covers id = true) ↔
      (∃ d ∈ directives (numbered 1 (above ++ below)), d.kind = kind ∧ q d.line ∧
        d.covers id = true) ∨
        kind = .nextLine ∧ p i ∧ covers ids id = true := by
  have hmem : ∀ d, d ∈ directives (numbered 1 (above ++ nextLineComment ids :: below)) ↔
      d = ⟨.nextLine, i, ids⟩ ∨
        ∃ old ∈ directives (numbered 1 (above ++ below)), old.renumber (shifted i) = d := by
    intro d
    rw [directives_insert hi, findOn_nextLineComment hids hne, numbered_split hi, directives_append,
      ← List.mem_map, List.map_append]
    simp only [List.mem_append, List.mem_singleton, or_left_comm]
  constructor
  · rintro ⟨d, hd, hkind, hp, hcovers⟩
    rcases (hmem d).mp hd with rfl | ⟨old, hold, rfl⟩
    · exact Or.inr ⟨hkind.symm, hp, hcovers⟩
    · exact Or.inl ⟨old, hold, hkind, (h old hold hkind).mp hp, hcovers⟩
  · rintro (⟨d, hd, hkind, hq, hcovers⟩ | ⟨rfl, hp, hcovers⟩)
    · exact ⟨_, (hmem _).mpr (Or.inr ⟨d, hd, rfl⟩), hkind, (h d hd hkind).mpr hq, hcovers⟩
    · exact ⟨_, (hmem _).mpr (Or.inl rfl), rfl, hp, hcovers⟩

/-- The new script is paired as the old one with its new numbers.

**Proof sketch.** A comment about the next line takes no part in the pairing and declares no
function, so only the numbers of the lines and the length of the script are new. -/
lemma pairing_insert :
    pairing (above ++ nextLineComment ids :: below)
        (directives (numbered 1 (above ++ nextLineComment ids :: below))) =
      pairUp ((declarationLines (numbered 1 (above ++ below))).map (shifted i)).toArray
        ((above ++ below).length + 1) []
        ((directives (numbered 1 (above ++ below))).map (.renumber (shifted i))) := by
  have hlength : ((above ++ nextLineComment ids :: below).length : Int) =
      (above ++ below).length + 1 := by
    simp only [List.length_append, List.length_cons]
    push_cast
    omega
  rw [pairing, directives_insert hi, findOn_nextLineComment hids hne,
    declarationLines_insert hi _ _ (isFunctionDeclaration_nextLineComment ids), hlength,
    List.singleton_append, pairUp_insert_nextLine rfl, ← List.map_append, ← directives_append,
    ← numbered_split hi]

/-- The ranges of the new script hide on a line what those of the old one hide there.

**Proof sketch.** Moving the lines below the comment keeps their order, so the ranges hide the same
under the new numbers, by `any_hides_pairUp_renumber`. -/
lemma exists_range_insert_iff {n : Int} (hn : n ≤ (above ++ below).length) (id : String) :
    (∃ range ∈ (pairing (above ++ nextLineComment ids :: below)
        (directives (numbered 1 (above ++ nextLineComment ids :: below)))).1,
        range.hides (shifted i n) id = true) ↔
      ∃ range ∈ (pairing (above ++ below) (directives (numbered 1 (above ++ below)))).1,
        range.hides n id = true := by
  have hn' : shifted i n ≤ (above ++ below).length + 1 := by
    unfold shifted
    split_ifs <;> omega
  have h := any_hides_pairUp_renumber (keepsOrder_shifted i)
    (pairwise_declarationLines 1 (above ++ below)) hn hn' []
    (directives (numbered 1 (above ++ below))) id
  rw [pairing_insert hids hne hi, ← List.any_eq_true, ← List.any_eq_true]
  exact Eq.congr_left h

/-- The new script has the same directives without effect, with their new numbers. -/
lemma unmatched_insert :
    (ofLines (above ++ nextLineComment ids :: below)).unmatched =
      (ofLines (above ++ below)).unmatched.map (shifted i) := by
  have h := snd_pairUp_renumber (keepsOrder_shifted i)
    (pairwise_declarationLines 1 (above ++ below)) (above ++ below).length
    ((above ++ below).length + 1) [] (directives (numbered 1 (above ++ below)))
  rw [List.map_nil] at h
  rw [unmatched_ofLines, unmatched_ofLines, pairing_insert hids hne hi, h]
  refine (List.map_mergeSort fun a _ b _ => ?_).symm
  exact decide_eq_decide.mpr ((keepsOrder_shifted i).le_iff a b).symm

/-- **What the index hides after a comment was inserted**, the script given by its lines above and
below.

**Proof sketch.** Each directive reaches the same lines as before, for lines stay in their order.
Only a file directive looks at a fixed number, and only a directive about the next line looks at
neighbouring numbers; for both of them the assumptions rule out the places where this makes a
difference. -/
lemma hides_insert_iff
    (hbefore : ∀ d ∈ directives (numbered 1 (above ++ below)), d.kind = .nextLine → d.line ≠ i - 1)
    (hheader : i ≤ 10 → ∀ d ∈ directives (numbered 1 (above ++ below)),
      d.kind = .file → d.line ≠ 10)
    {n : Int} (hn : n ≤ (above ++ below).length) (id : String) :
    (ofLines (above ++ nextLineComment ids :: below)).hides (shifted i n) id = true ↔
      (ofLines (above ++ below)).hides n id = true ∨ n = i ∧ id ∈ ids := by
  have horder := keepsOrder_shifted i
  have hfile :=
    exists_kind_insert_iff hids hne hi below .file (· ≤ headerLines) (· ≤ headerLines) id <| by
    intro d hd hkind
    have hten : i ≤ 10 → d.line ≠ 10 := fun hle => hheader hle d hd hkind
    unfold shifted headerLines
    split_ifs <;> omega
  have hbelow := exists_kind_insert_iff hids hne hi below .below (· ≤ shifted i n) (· ≤ n) id
    fun d _ _ => horder.le_iff d.line n
  have hline := exists_kind_insert_iff hids hne hi below .line (· = shifted i n) (· = n) id
    fun d _ _ => horder.eq_iff d.line n
  have hnext :=
    exists_kind_insert_iff hids hne hi below .nextLine (· = shifted i n - 1) (· = n - 1) id <| by
    intro d hd hkind
    have hother := hbefore d hd hkind
    unfold shifted
    split_ifs <;> omega
  have hcomment : i = shifted i n - 1 ∧ covers ids id = true ↔ n = i ∧ id ∈ ids := by
    have htarget : i = shifted i n - 1 ↔ n = i := by
      unfold shifted
      split_ifs <;> omega
    simp [htarget, covers, hne]
  rw [hides_ofLines_iff_exists, hides_ofLines_iff_exists, hfile, hbelow,
    exists_range_insert_iff hids hne hi below hn, hline, hnext, hcomment]
  simp only [reduceCtorEq, false_and, or_false, true_and, or_assoc]

end Comment

/-- **Inserting a comment about the next line.**  Let a comment that names some checks be inserted
as line `i` of a script.  There may be no directive about the next line right before it, and no file
directive on the tenth line if that line moves.  Then each line of the script, under its new number,
has the same checks left out as before, and on line `i` of the old script also those that the
comment names; and the same directives have no effect.

**Proof sketch.** Cut the script where the comment goes in.  What is hidden then follows from
`hides_insert_iff`, and what is left over from `unmatched_insert`. -/
theorem hides_insertLine_iff {script : List (List Char)} {i : Nat} (hfirst : 1 ≤ i)
    (hlast : i ≤ script.length + 1) {ids : List String} (hne : ids ≠ [])
    (hids : ∀ id ∈ ids, Directive.isListable id = true)
    (hbefore : ∀ d ∈ directives (numbered 1 script), d.kind = .nextLine → d.line ≠ i - 1)
    (hheader : i ≤ 10 → ∀ d ∈ directives (numbered 1 script), d.kind = .file → d.line ≠ 10) :
    (∀ m : Int, 1 ≤ m → m ≤ script.length → ∀ id,
        (ofLines (insertLine script i (nextLineComment ids))).hides (shifted i m) id = true ↔
          (ofLines script).hides m id = true ∨ m = i ∧ id ∈ ids) ∧
      (ofLines (insertLine script i (nextLineComment ids))).unmatched =
        (ofLines script).unmatched.map (shifted i) := by
  have hsplit : script.take (i - 1) ++ script.drop (i - 1) = script := List.take_append_drop _ _
  have hi : (i : Int) = (script.take (i - 1)).length + 1 := by
    rw [List.length_take]
    omega
  rw [← hsplit] at hbefore hheader
  constructor
  · intro m _ hm id
    rw [← hsplit] at hm
    have h := hides_insert_iff hids hne hi _ hbefore (fun hle => hheader (by omega)) hm id
    rwa [hsplit] at h
  · have h := unmatched_insert hids hne hi (script.drop (i - 1))
    rwa [hsplit] at h

/-- A comment between two functions, right behind the end of a block: it is about the declaration
below it.  The directive without effect in the second function moves down. -/
theorem hides_insertLine_iff_twoFunctions :
    (∀ d ∈ directives (numbered 1 twoFunctions), d.kind = .nextLine → d.line ≠ 3) ∧
      (∀ d ∈ directives (numbered 1 twoFunctions), d.kind = .file → d.line ≠ 10) ∧
      (ofLines (insertLine twoFunctions 4
        (nextLineComment ["a:b", "long-line"]))).hides 5 "a:b" = true ∧
      (ofLines (insertLine twoFunctions 4
        (nextLineComment ["a:b", "long-line"]))).unmatched = [6] := by
  have hbefore : ∀ d ∈ directives (numbered 1 twoFunctions), d.kind = .nextLine → d.line ≠ 3 := by
    decide +kernel
  have hheader : ∀ d ∈ directives (numbered 1 twoFunctions), d.kind = .file → d.line ≠ 10 := by
    decide +kernel
  have hids : ∀ id ∈ ["a:b", "long-line"], Directive.isListable id = true := by decide +kernel
  have hpairing : (pairing twoFunctions (directives (numbered 1 twoFunctions))).2 = [5] := by
    decide +kernel
  obtain ⟨hhides, hunmatched⟩ := @hides_insertLine_iff twoFunctions 4 (by decide) (by decide) _
    (List.cons_ne_nil _ _) hids hbefore fun _ => hheader
  refine ⟨hbefore, hheader, ?_, ?_⟩
  · exact (hhides 4 (by decide) (by decide) "a:b").mpr (Or.inr ⟨rfl, by decide⟩)
  · rw [hunmatched, unmatched_ofLines, hpairing, List.mergeSort_singleton]
    rfl

end ScriptAudit.Suppression
