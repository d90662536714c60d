import Mathlib.Data.List.Infix
import Mathlib.Tactic.Common
import ScriptAudit.Proofs.Stretches
import ScriptAudit.Suppression.Directive

/-!
# Writing directives

A directive is written as the marker, its keyword and, if it is about some checks only, a colon and
the identifiers of these checks with commas between them.  Any number of directives may be written
on one line, among other text.  Reading the line gives back the directives that were written,
whatever the identifiers are made of: a list of checks ends with the next blank character and with
nothing else.

## Main definitions

* `ScriptAudit.Directive.isListable` — the identifiers that can stand in a list of checks.
* `ScriptAudit.Directive.Wording` — a directive without its line, and its text.
* `ScriptAudit.Directive.Passage`, `ScriptAudit.Directive.Separated` — a directive and what follows
  it on its line.

## Main results

* `ScriptAudit.Directive.recognise_text` — the recogniser finds a written directive where it stands.
* `ScriptAudit.Directive.findFrom_filler` — the search passes over text without the marker.
* `ScriptAudit.Directive.findOn_written` — reading a line gives the directives written on it.
-/

set_option relaxedAutoImplicit false
set_option autoImplicit false

namespace ScriptAudit

open Text

/-! ## Keywords -/

namespace DirectiveKind

/-- Keywords are made of characters of keywords. -/
lemma all_isKeywordChar_keyword (kind : DirectiveKind) :
    kind.keyword.toList.all Directive.isKeywordChar = true := by
  cases kind <;> decide +kernel

/-- No two kinds of directives have the same keyword. -/
lemma ofKeyword?_keyword (kind : DirectiveKind) : ofKeyword? kind.keyword.toList = some kind := by
  cases kind <;> decide

end DirectiveKind

namespace Directive

/-- Blanks are not characters of keywords. -/
lemma isKeywordChar_of_isBlank {c : Char} (h : isBlank c = true) : isKeywordChar c = false := by
  have hdash : c ≠ '-' := ne_of_isBlank h (by decide)
  simp [isKeywordChar, isWordChar_of_isBlank h, hdash]

/-! ## Lists of checks -/

/-- Whether an identifier can stand in a list of checks: it is not empty, and neither blanks nor
commas occur in it. -/
def isListable (id : String) : Bool :=
  !id.toList.isEmpty && id.toList.all fun c => !isBlank c && c != ','

/-- An identifier can be listed if it is not empty and holds neither blanks nor commas. -/
lemma isListable_iff (id : String) :
    isListable id = true ↔ id.toList ≠ [] ∧ ∀ c ∈ id.toList, isBlank c = false ∧ c ≠ ',' := by
  simp [isListable]

/-- A list of checks as it is written, with commas between the identifiers. -/
def joined (ids : List String) : List Char := [','].intercalate (ids.map String.toList)

section Joined

variable {ids : List String} (hids : ∀ id ∈ ids, isListable id = true)
include hids

/-- No blank ends a list of checks.

**Proof sketch.** Induction on the ids.  A character of the text belongs to an id, which holds no
blank, or it is a comma. -/
lemma isBlank_of_mem_joined {c : Char} (h : c ∈ joined ids) : isBlank c = false := by
  induction ids with
  | nil => simp [joined] at h
  | cons id more ih =>
    rw [List.forall_mem_cons] at hids
    cases more with
    | nil =>
      rw [joined, List.map_singleton, List.intercalate_singleton] at h
      exact (((isListable_iff id).mp hids.1).2 c h).1
    | cons next more =>
      rw [joined, List.map_cons, List.map_cons, List.intercalate_cons_cons, List.append_assoc,
        List.mem_append, List.singleton_append, List.mem_cons] at h
      rcases h with hid | rfl | hmore
      · exact (((isListable_iff id).mp hids.1).2 c hid).1
      · decide
      · exact ih hids.2 hmore

/-- **Reading a list of checks** undoes writing it.

**Proof sketch.** An id holds neither commas nor blanks and is not empty, so the text is divided
where it was joined, trimming takes nothing away, and no entry is dropped. -/
lemma idsOf_joined : idsOf (joined ids) = ids := by
  simp only [isListable_iff] at hids
  have hentries : entries (joined ids) = ids.map String.toList := by
    apply entries_intercalate
    · intro id hid hcomma
      exact ((hids id hid).2 ',' hcomma).2 rfl
    · intro id hid
      exact trim_of_forall fun c hc => ((hids id hid).2 c hc).1
    · exact fun id hid => (hids id hid).1
  rw [idsOf, hentries, List.map_map]
  simp

end Joined

/-! ## Written directives -/

/-- A directive as it is written, on whatever line. -/
structure Wording where
  /-- What part of the script it is about. -/
  kind : DirectiveKind
  /-- The identifiers of the checks that it is about; none for all checks. -/
  ids : List String
  listable : ∀ id ∈ ids, isListable id = true

namespace Wording

/-- What follows the keyword: nothing, or a colon and the list of checks. -/
def list (w : Wording) : List Char := if w.ids = [] then [] else ':' :: joined w.ids

/-- The text of a directive. -/
def text (w : Wording) : List Char := marker ++ (w.kind.keyword.toList ++ w.list)

/-- The directive that is found where the text stands on a line. -/
def directive (w : Wording) (line : Int) : Directive := ⟨w.kind, line, w.ids⟩

/-- The text of a directive begins with the first letter of the marker. -/
lemma text_eq_cons (w : Wording) :
    w.text = 'q' :: (marker.tail ++ (w.kind.keyword.toList ++ w.list)) := rfl

end Wording

/-- **A written directive is recognised** if a blank stands behind it, or nothing.

**Proof sketch.** The keyword is taken up to the first character that cannot belong to one, which is
the colon, the blank or the end.  The list of checks is taken up to the first blank, and no blank
occurs in it. -/
lemma recognise_text (line : Int) (before : Option Char) (w : Wording) {rest : List Char}
    (hrest : rest.head?.all isBlank = true) :
    recognise line before (w.text ++ rest) = some (w.directive line, rest) := by
  have hmarker : marker.isPrefixOf? (w.text ++ rest) =
      some (w.kind.keyword.toList ++ (w.list ++ rest)) := by
    rw [List.isPrefixOf?_eq_some_iff_append_eq, Wording.text, List.append_assoc, List.append_assoc]
  have hkeyword := w.kind.all_isKeywordChar_keyword
  unfold recognise
  rw [hmarker]
  by_cases hids : w.ids = []
  · have hend : rest.head?.any isKeywordChar = false := by
      cases rest with
      | nil => rfl
      | cons c more => exact isKeywordChar_of_isBlank hrest
    -- decides the match on what stands behind the keyword
    have hcolon : ∀ list, rest ≠ ':' :: list := by
      rintro list rfl
      have hblank : isBlank ':' = true := hrest
      exact absurd hblank (by decide)
    simp only [Wording.list, hids, if_true, List.nil_append, takeWhile_run hkeyword hend,
      dropWhile_run hkeyword hend, w.kind.ofKeyword?_keyword, Option.map_some]
    rw [Wording.directive, hids]
  · have hend : (w.list ++ rest).head?.any isKeywordChar = false := by
      have hcolon : isKeywordChar ':' = false := by decide +kernel
      simpa [Wording.list, hids] using hcolon
    have hlist : (joined w.ids).all (!isBlank ·) = true := by
      rw [List.all_eq_true]
      intro c hc
      simp [isBlank_of_mem_joined w.listable hc]
    have hstop : rest.head?.any (!isBlank ·) = false := by
      cases rest with
      | nil => rfl
      | cons c more =>
        have hc : isBlank c = true := hrest
        simp [hc]
    simp only [takeWhile_run hkeyword hend, dropWhile_run hkeyword hend, w.kind.ofKeyword?_keyword,
      Option.map_some]
    simp only [Wording.list, hids, if_false, List.cons_append, takeWhile_run hlist hstop,
      dropWhile_run hlist hstop, idsOf_joined w.listable, Wording.directive]

/-! ## Searching a line -/

/-- The recogniser of directives does not look at the character before its place. -/
lemma findFrom_recognise (line : Int) (before : Option Char) (text : List Char) :
    findFrom (recognise line) 0 before text = findFrom (recognise line) 0 none text := by
  cases text <;> rfl

/-- Where the marker does not stand, no directive is recognised. -/
lemma recognise_eq_none {text : List Char} (h : ¬ marker <+: text) (line : Int)
    (before : Option Char) :
    recognise line before text = none := by
  unfold recognise
  split
  · rfl
  · next rest hrest =>
    have happend := List.isPrefixOf?_eq_some_iff_append_eq.mp hrest
    exact absurd ⟨rest, happend⟩ h

/-- A marker that begins in a text without ending there goes on with a later character of it, so
what follows may not begin with one.

**Proof sketch.** If the marker begins the whole, then it lies in the filler, or the filler is a
beginning of it.  In the second case the next character of the marker, which is not its first one,
is the first one of what follows. -/
lemma not_marker_prefix_append {filler rest : List Char} (hne : filler ≠ [])
    (hfree : ¬ marker <:+: filler)
    (hrest : ∀ c ∈ rest.head?, c ∉ marker.tail) : ¬ marker <+: filler ++ rest := by
  intro hmarker
  rcases List.prefix_or_prefix_of_prefix hmarker
    (List.prefix_append filler rest) with hwithin | hacross
  · exact hfree hwithin.isInfix
  · obtain ⟨tail, htail⟩ := hacross
    rw [← htail, List.prefix_append_right_inj] at hmarker
    cases tail with
    | nil =>
      rw [List.append_nil] at htail
      exact hfree (htail ▸ List.infix_rfl)
    | cons c more =>
      obtain ⟨after, hafter⟩ := hmarker
      have hhead : c ∈ rest.head? := by simp [← hafter]
      apply hrest c hhead
      obtain ⟨first, others, rfl⟩ := List.exists_cons_of_ne_nil hne
      rw [← htail, List.cons_append, List.tail_cons]
      exact List.mem_append_right _ List.mem_cons_self

/-- **The search passes over text without the marker**, since what follows does not complete one.

**Proof sketch.** Induction on the filler.  No marker begins at any of its characters, by
`not_marker_prefix_append`. -/
lemma findFrom_filler (line : Int) {filler rest : List Char} (hfree : ¬ marker <:+: filler)
    (hrest : ∀ c ∈ rest.head?, c ∉ marker.tail) :
    findFrom (recognise line) 0 none (filler ++ rest) = findFrom (recognise line) 0 none rest := by
  induction filler with
  | nil => rfl
  | cons c more ih =>
    have hmore : ¬ marker <:+: more := fun h => hfree (h.trans (List.suffix_cons c more).isInfix)
    have hnone :=
      recognise_eq_none (not_marker_prefix_append (List.cons_ne_nil c more) hfree hrest) line none
    rw [List.cons_append] at hnone ⊢
    rw [findFrom_of_eq_none hnone, findFrom_recognise, ih hmore]

/-- **The first directive of a line** is found behind the text before it, and the search goes on
behind it.

**Proof sketch.** The text begins with the first character of the marker, which the marker does not
hold a second time, so the search passes over the filler; then it recognises the directive as it was
written. -/
lemma findFrom_text (line : Int) {filler : List Char} (hfree : ¬ marker <:+: filler) (w : Wording)
    {rest : List Char} (hrest : rest.head?.all isBlank = true) :
    findFrom (recognise line) 0 none (filler ++ (w.text ++ rest)) =
      w.directive line :: findFrom (recognise line) 0 none rest := by
  have hhead : ∀ c ∈ (w.text ++ rest).head?, c ∉ marker.tail := by
    intro c hc
    rw [w.text_eq_cons, List.cons_append, List.head?_cons, Option.mem_some_iff] at hc
    subst hc
    decide
  rw [findFrom_filler line hfree hhead]
  have hfound := recognise_text line none w hrest
  rw [w.text_eq_cons] at hfound ⊢
  rw [findFrom_of_eq_some hfound, findFrom_recognise]

/-! ## Lines with directives -/

/-- A directive and the text behind it, up to the next directive or to the end of the line. -/
structure Passage where
  /-- The directive. -/
  wording : Wording
  /-- The text behind it. -/
  filler : List Char
  free : ¬ marker <:+: filler

/-- The text of some passages, one behind the other. -/
def written (passages : List Passage) : List Char :=
  passages.flatMap fun p => p.wording.text ++ p.filler

/-- Passages are written one behind the other. -/
lemma written_cons (passage : Passage) (rest : List Passage) :
    written (passage :: rest) = passage.wording.text ++ (passage.filler ++ written rest) := by
  rw [written, List.flatMap_cons, List.append_assoc, written]

/-- **Directives are separated**: a blank stands behind each of them, or nothing behind the last
one. -/
def Separated : List Passage → Prop
  | [] => True
  | passage :: rest =>
    (passage.filler.head?.any isBlank = true ∨ passage.filler = [] ∧ rest = []) ∧ Separated rest

/-- What follows a separated directive begins with a blank, if there is anything. -/
lemma head?_of_separated {passage : Passage} {rest : List Passage}
    (h : Separated (passage :: rest)) :
    (passage.filler ++ written rest).head?.all isBlank = true := by
  rcases h.1 with hblank | ⟨hnil, rfl⟩
  · cases hfiller : passage.filler with
    | nil => simp [hfiller] at hblank
    | cons c more => simpa [hfiller] using hblank
  · rw [hnil]
    rfl

/-- **Reading a line undoes writing it.**  Let any text without the marker stand at the beginning of
a line, and then directives, each with a text behind it that does not hold the marker and begins
with a blank; behind the last directive there may also be nothing.  The directives found on the line
are those that were written, in their order and with their checks.

**Proof sketch.** Induction on the passages.  The text behind a directive is the filler before the
next one. -/
theorem findOn_written (line : Int) {lead : List Char} (hlead : ¬ marker <:+: lead)
    {passages : List Passage} (h : Separated passages) :
    findOn line (lead ++ written passages) = passages.map fun p => p.wording.directive line := by
  unfold findOn findAll
  induction passages generalizing lead with
  | nil =>
    rw [findFrom_filler line hlead (by simp [written])]
    rfl
  | cons passage rest ih =>
    rw [written_cons, findFrom_text line hlead _ (head?_of_separated h), ih passage.free h.2,
      List.map_cons]

/-- Identifiers that look like directives can be listed. -/
lemma listable_lookAlikes : ∀ id ∈ ["a:b", "qube:ignore"], isListable id = true := by decide +kernel

/-- The identifier of a check can be listed. -/
lemma listable_longLine : ∀ id ∈ ["long-line"], isListable id = true := by decide +kernel

/-- Identifiers that look like a list and like a directive, then a directive about all checks, and
one that ends the line. -/
def crowdedLine : List Passage :=
  [⟨⟨.nextLine, ["a:b", "qube:ignore"], listable_lookAlikes⟩,
    " qube, then ".toList, by decide +kernel⟩,
   ⟨⟨.line, [], List.forall_mem_nil _⟩, "\t".toList, by decide +kernel⟩,
   ⟨⟨.blockStart, ["long-line"], listable_longLine⟩, [], by decide +kernel⟩]

/-- The text of such a line. -/
def crowdedText : String :=
  "# qubeqube:ignore-next-line:a:b,qube:ignore qube, then " ++
    "qube:ignore\tqube:ignore-block-start:long-line"

/-- A line that begins with all of the marker but its colon, right before the first directive. -/
theorem findOn_written_crowdedLine :
    ¬ marker <:+: "# qube".toList ∧ Separated crowdedLine ∧
      findOn 7 crowdedText.toList = [⟨.nextLine, 7, ["a:b", "qube:ignore"]⟩, ⟨.line, 7, []⟩,
        ⟨.blockStart, 7, ["long-line"]⟩] := by
  have hlead : ¬ marker <:+: "# qube".toList := by decide +kernel
  have hseparated : Separated crowdedLine :=
    ⟨Or.inl (by decide +kernel), Or.inl (by decide +kernel), Or.inr ⟨rfl, rfl⟩, trivial⟩
  have htext : crowdedText.toList = "# qube".toList ++ written crowdedLine := by decide +kernel
  refine ⟨hlead, hseparated, ?_⟩
  rw [htext, findOn_written 7 hlead hseparated]
  rfl

end Directive

end ScriptAudit
