import Mathlib.Data.List.Sort
import Mathlib.Tactic.Common
import ScriptAudit.Proofs.Reading
import ScriptAudit.Proofs.Wording

/-!
# An index that checks its steps

The index of a script is built and looked up by total functions: a binary search carries a proof
that it stays inside its array, a function range is made from the entries that exist, and a word
that is no keyword gives no directive.  Here the same work is done by functions that take nothing
for granted.  They take every entry at a position that may lie outside, and turn into a kind every
word that the pattern of directives has captured; where that is impossible, they stop with a
mishap.  No mishap ever happens, and the outcome is the one of the total functions.

The pattern of directives is written out as it is tried: one keyword after the other, the longer
ones first, and a keyword counts only if no further character of a keyword follows.

## Main definitions

* `ScriptAudit.Mishap` — what may go wrong in a step.
* `ScriptAudit.Checked.entryAt`, `ScriptAudit.Checked.entriesBefore` — access at a position.
* `ScriptAudit.Checked.capture` — the pattern of directives, with the word that it captures.
* `ScriptAudit.Checked.index`, `ScriptAudit.Checked.hides` — building and looking up an index.

## Main results

* `ScriptAudit.Checked.exists_kind_of_mem_findAll` — every captured word is a keyword.
* `ScriptAudit.Checked.index_eq_ok`, `ScriptAudit.Checked.hides_eq_ok` — no mishap happens.
-/

set_option relaxedAutoImplicit false
set_option autoImplicit false

namespace ScriptAudit

open Text

/-- What may go wrong in a step of an analysis. -/
inductive Mishap where
  /-- A literal that cannot be read as a number. -/
  | notNumber (literal : List Char)
  /-- A word that is not the keyword of a directive. -/
  | notKeyword (word : List Char)
  /-- A position at which there is no entry, and the number of entries. -/
  | noEntry (position : Int) (size : Nat)
  /-- An integer that has too many digits to be written. -/
  | unwritable
  deriving DecidableEq

namespace Checked

variable {α β : Type}

/-- A step that goes through hands its value to the next one. -/
@[simp]
lemma ok_bind (x : α) (f : α → Except Mishap β) : (Except.ok x >>= f) = f x := rfl

/-- A step that only gives a value goes through. -/
@[simp]
lemma pure_eq_ok (x : α) : (pure x : Except Mishap α) = .ok x := rfl

/-- If no step goes wrong, neither does the sequence of all steps. -/
lemma mapM_eq_ok {f : α → Except Mishap β} {g : α → β} (h : ∀ x, f x = .ok (g x)) (xs : List α) :
    xs.mapM f = .ok (xs.map g) := by
  rw [funext h]
  exact List.mapM_pure

/-! ## Access at a position -/

/-- The entry at a position. -/
def entryAt (entries : List α) (position : Int) : Except Mishap α :=
  if position < 0 then .error (.noEntry position entries.length)
  else
    match entries[position.toNat]? with
    | some entry => .ok entry
    | none => .error (.noEntry position entries.length)

/-- An entry is taken if it is there. -/
lemma entryAt_eq_ok {entries : List α} {position : Nat} {entry : α}
    (h : entries[position]? = some entry) :
    entryAt entries position = .ok entry := by
  rw [entryAt, if_neg (by omega), Int.toNat_natCast, h]

/-- A position inside an array has an entry. -/
lemma entryAt_toList {entries : Array α} {position : Nat} (h : position < entries.size) :
    entryAt entries.toList position = .ok entries[position] :=
  entryAt_eq_ok (by rw [Array.getElem?_toList, Array.getElem?_eq_getElem])

/-- The entries before a position, which may be the one behind the last entry. -/
def entriesBefore (entries : List α) (position : Nat) : Except Mishap (List α) :=
  if position ≤ entries.length then .ok (entries.take position)
  else .error (.noEntry position entries.length)

/-! ## Binary search -/

/-- Binary search between `lo` and `hi`. -/
def searchIn (xs : Array Int) (x : Int) (lo hi : Nat) : Except Mishap Nat :=
  if _h : lo < hi then do
    let middle := (lo + hi) / 2
    let entry ← entryAt xs.toList middle
    if x < entry then searchIn xs x lo middle else searchIn xs x (middle + 1) hi
  else .ok lo
termination_by hi - lo

/-- The position behind the last entry that is at most `x`. -/
def search (xs : Array Int) (x : Int) : Except Mishap Nat := searchIn xs x 0 xs.size

section Search

variable (xs : Array Int) (x : Int)

/-- A step of the loop takes an entry that exists, since the position in the middle lies before
`hi`. -/
lemma searchIn_of_lt {lo hi : Nat} (hlt : lo < hi) (bound : hi ≤ xs.size) :
    searchIn xs x lo hi =
      if x < xs[(lo + hi) / 2] then searchIn xs x lo ((lo + hi) / 2)
      else searchIn xs x ((lo + hi) / 2 + 1) hi := by
  have hmiddle : (lo + hi) / 2 < xs.size := by omega
  rw [searchIn, dif_pos hlt]
  simp only [entryAt_toList hmiddle, ok_bind]

/-- The loop of the search goes through, as long as it does not begin to look behind the last entry.

**Proof sketch.** Induction along the search.  The middle lies below the upper end, and this one
never grows, so there is an entry. -/
lemma searchIn_eq_ok (lo hi : Nat) (bound : hi ≤ xs.size) :
    searchIn xs x lo hi = .ok (upperBoundIn xs x lo hi bound) := by
  fun_induction upperBoundIn xs x lo hi bound with
  | case1 lo hi bound hlt middle hless ih =>
    rw [searchIn_of_lt xs x hlt bound]
    exact (if_pos hless).trans ih
  | case2 lo hi bound hlt middle hless ih =>
    rw [searchIn_of_lt xs x hlt bound]
    exact (if_neg hless).trans ih
  | case3 lo hi bound hlt => rw [searchIn, dif_neg hlt]

/-- The whole search goes through. -/
lemma search_eq_ok : search xs x = .ok (upperBound xs x) :=
  searchIn_eq_ok xs x 0 xs.size (Nat.le_refl _)

/-- A search between two positions ends between them.

**Proof sketch.** Induction along the search: the position in the middle lies between the two. -/
lemma upperBoundIn_le (lo hi : Nat) (bound : hi ≤ xs.size) (hle : lo ≤ hi) :
    upperBoundIn xs x lo hi bound ≤ hi := by
  fun_induction upperBoundIn xs x lo hi bound with
  | case1 lo hi bound hlt middle hless ih =>
    have hmiddle := ih (by omega)
    omega
  | case2 lo hi bound hlt middle hless ih => exact ih (by omega)
  | case3 lo hi bound hlt => exact hle

/-- A search ends at most behind the last entry. -/
lemma upperBound_le_size : upperBound xs x ≤ xs.size :=
  upperBoundIn_le xs x 0 xs.size (Nat.le_refl _) (Nat.zero_le _)

end Search

/-! ## Directives -/

section Directives

open Directive (isKeywordChar)

/-- What the pattern of directives captures: the keyword, and the list of checks if there is one. -/
structure Capture where
  /-- The word behind the marker. -/
  keyword : List Char
  /-- The text behind the colon, if there is a colon. -/
  list : Option (List Char)
  deriving DecidableEq

/-- The keywords in the order in which they are tried, the longer ones first. -/
def keywords : List (List Char) :=
  (DirectiveKind.all.map (·.keyword.toList)).insertionSort fun a b => b.length ≤ a.length

/-- Captures the list of checks behind a keyword. -/
def captureList (keyword : List Char) : List Char → Capture × List Char
  | ':' :: list => (⟨keyword, some (list.takeWhile (!isBlank ·))⟩, list.dropWhile (!isBlank ·))
  | rest => (⟨keyword, none⟩, rest)

/-- Tries a keyword at the beginning of a text. -/
def captureKeyword (text keyword : List Char) : Option (Capture × List Char) :=
  match keyword.isPrefixOf? text with
  | none => none
  | some rest =>
    if rest.head?.any isKeywordChar then none else some (captureList keyword rest)

/-- The pattern of directives. -/
def capture : Recogniser Capture := fun _ text =>
  match Directive.marker.isPrefixOf? text with
  | none => none
  | some rest => keywords.findSome? (captureKeyword rest)

/-- The directive that was captured on a line. -/
def Capture.directive (line : Int) (captured : Capture) : Except Mishap Directive :=
  match DirectiveKind.ofKeyword? captured.keyword with
  | some kind => .ok ⟨kind, line, captured.list.elim [] Directive.idsOf⟩
  | none => .error (.notKeyword captured.keyword)

/-- All directives on a line. -/
def directivesOn (line : Script.Line) : Except Mishap (List Directive) :=
  (findAll capture line.raw).mapM (Capture.directive line.number)

/-- The words of the pattern are the keywords of the kinds of directives. -/
lemma mem_keywords_iff (word : List Char) :
    word ∈ keywords ↔ ∃ kind, DirectiveKind.ofKeyword? word = some kind := by
  rw [keywords, List.mem_insertionSort, List.mem_map]
  constructor
  · rintro ⟨kind, -, rfl⟩
    exact ⟨kind, kind.ofKeyword?_keyword⟩
  · rintro ⟨kind, hkind⟩
    have hword := List.find?_some hkind
    exact ⟨kind, List.mem_of_find?_eq_some hkind, eq_of_beq hword⟩

/-- Keywords are made of characters of keywords. -/
lemma all_isKeywordChar_of_mem_keywords {word : List Char} (h : word ∈ keywords) :
    word.all isKeywordChar = true := by
  obtain ⟨kind, -, rfl⟩ := List.mem_map.mp ((List.mem_insertionSort _).mp h)
  exact kind.all_isKeywordChar_keyword

/-- A keyword is captured at the beginning of a text if and only if it is the whole run of
characters there that may belong to a keyword.

**Proof sketch.** A keyword consists of keyword characters only.  If a text begins with it and no
such character follows, then it is the whole run at the beginning; conversely no such character
follows the run. -/
lemma captureKeyword_eq (text : List Char) {keyword : List Char}
    (hkeyword : keyword.all isKeywordChar = true) :
    captureKeyword text keyword =
      if text.takeWhile isKeywordChar = keyword then
        some (captureList keyword (text.dropWhile isKeywordChar))
      else none := by
  by_cases hword : text.takeWhile isKeywordChar = keyword
  · have hrest : keyword.isPrefixOf? text = some (text.dropWhile isKeywordChar) := by
      rw [List.isPrefixOf?_eq_some_iff_append_eq, ← hword, List.takeWhile_append_dropWhile]
    have hend : (text.dropWhile isKeywordChar).head?.any isKeywordChar = false :=
      any_head?_dropWhile text
    rw [captureKeyword, hrest, if_pos hword]
    simp only [hend, Bool.false_eq_true, if_false]
  · rw [if_neg hword, captureKeyword]
    split
    · rfl
    · next rest hrest =>
      rw [List.isPrefixOf?_eq_some_iff_append_eq] at hrest
      rw [if_pos]
      by_contra hend
      rw [Bool.not_eq_true] at hend
      exact hword (by rw [← hrest, takeWhile_run hkeyword hend])

/-- **The order of the keywords makes no difference.**  At most one of them can be captured.

**Proof sketch.** Induction on the keywords.  By `captureKeyword_eq` a keyword is captured only if
it is the run at the beginning of the text, and then it does not matter where it stands among
them. -/
lemma findSome?_captureKeyword (text : List Char) {words : List (List Char)}
    (hwords : ∀ word ∈ words, word.all isKeywordChar = true) :
    words.findSome? (captureKeyword text) =
      if text.takeWhile isKeywordChar ∈ words then
        some (captureList (text.takeWhile isKeywordChar) (text.dropWhile isKeywordChar))
      else none := by
  induction words with
  | nil => simp
  | cons word rest ih =>
    rw [List.findSome?_cons, captureKeyword_eq text (hwords word List.mem_cons_self),
      ih fun w hw => hwords w (List.mem_cons_of_mem _ hw)]
    by_cases hword : text.takeWhile isKeywordChar = word
    · subst hword
      simp
    · simp only [hword, if_false, List.mem_cons, false_or]

/-- **The pattern of directives takes whole words.**  It captures the run of characters of keywords
behind the marker, provided that the whole run is a keyword. -/
lemma capture_eq (before : Option Char) (text : List Char) :
    capture before text =
      match Directive.marker.isPrefixOf? text with
      | none => none
      | some rest =>
        if rest.takeWhile isKeywordChar ∈ keywords then
          some (captureList (rest.takeWhile isKeywordChar) (rest.dropWhile isKeywordChar))
        else none := by
  unfold capture
  split
  · rfl
  · exact findSome?_captureKeyword _ fun word => all_isKeywordChar_of_mem_keywords

/-- Reading the list of checks leaves the keyword as it is. -/
lemma keyword_captureList (keyword rest : List Char) :
    (captureList keyword rest).1.keyword = keyword := by
  unfold captureList
  split <;> rfl

/-- Every word that the pattern of directives captures is a keyword.

**Proof sketch.** What holds of all that the recogniser captures at one place holds of all matches.
At one place the word captured is the run of keyword characters, and it has been compared with the
keywords. -/
lemma exists_kind_of_mem_findAll {text : List Char} {captured : Capture}
    (h : captured ∈ findAll capture text) :
    ∃ kind, DirectiveKind.ofKeyword? captured.keyword = some kind := by
  refine forall_mem_findFrom (p := fun c => ∃ kind, DirectiveKind.ofKeyword? c.keyword = some kind)
    ?_ 0 none text captured h
  intro before text found after hfound
  rw [capture_eq] at hfound
  split at hfound
  · cases hfound
  · next rest hmarker =>
    split_ifs at hfound with hword
    have hkeyword :=
      keyword_captureList (rest.takeWhile isKeywordChar) (rest.dropWhile isKeywordChar)
    rw [Option.some.inj hfound] at hkeyword
    rwa [← mem_keywords_iff, hkeyword]

/-- If what one recogniser finds can always be turned into what another one finds, so can all
matches.

**Proof sketch.** Induction along the search.  Where the first recogniser finds nothing, neither
does the other one, by the hypothesis; where it finds something, so does the other one, both go on
at the same place, and the turning of what is found cannot fail there. -/
lemma mapM_findFrom {find : Recogniser α} {find' : Recogniser β} {f : α → Except Mishap β}
    (h : ∀ before text,
      (find before text).mapM (fun found => (·, found.2) <$> f found.1) = .ok (find' before text))
    (skip : Nat) (before : Option Char) (text : List Char) :
    (findFrom find skip before text).mapM f = .ok (findFrom find' skip before text) := by
  fun_induction findFrom find skip before text with
  | case1 => rfl
  | case2 skip before c rest ih => exact ih
  | case3 before c rest found after hfound ih =>
    have hstep := h before (c :: rest)
    rw [hfound, Option.mapM_some] at hstep
    cases hf : f found with
    | error mishap => simp [hf] at hstep
    | ok made =>
      have hmade : find' before (c :: rest) = some (made, after) := by
        simpa [hf, eq_comm] using hstep
      rw [List.mapM_cons, hf, ih, findFrom, hmade]
      rfl
  | case4 before c rest hnone ih =>
    have hmade : find' before (c :: rest) = none := by
      simpa [hnone, eq_comm] using h before (c :: rest)
    rw [ih, findFrom, hmade]

/-- What is captured at a place makes the directive that stands there.

**Proof sketch.** Both compare the run of keyword characters behind the marker with the keywords.
If it is none of them nothing is captured; otherwise the keyword stands for the kind that the
directive has. -/
lemma mapM_capture (line : Int) (before : Option Char) (text : List Char) :
    (capture before text).mapM (fun found => (·, found.2) <$> found.1.directive line) =
      .ok (Directive.recognise line before text) := by
  rw [capture_eq, Directive.recognise]
  cases Directive.marker.isPrefixOf? text with
  | none => rfl
  | some rest =>
    cases hkind : DirectiveKind.ofKeyword? (rest.takeWhile isKeywordChar) with
    | none =>
      have hword : rest.takeWhile isKeywordChar ∉ keywords := by simp [mem_keywords_iff, hkind]
      simp [hword, hkind]
    | some kind =>
      have hword := (mem_keywords_iff _).mpr ⟨kind, hkind⟩
      simp only [if_pos hword, hkind]
      generalize rest.dropWhile isKeywordChar = behind
      unfold captureList
      split <;> simp [Capture.directive, hkind]

/-- Every directive of a line is found, with its kind. -/
lemma directivesOn_eq_ok (line : Script.Line) :
    directivesOn line = .ok (Directive.findOn line.number line.raw) :=
  mapM_findFrom (mapM_capture line.number) 0 none line.raw

end Directives

/-! ## Building an index -/

/-- The range of a function directive. -/
def functionRange (declarations : Array Int) (total : Int) (directive : Directive) :
    Except Mishap (Option LineRange) := do
  let position ← search declarations directive.line
  if declarations.size ≤ position then
    return none
  let first ← entryAt declarations.toList position
  if position + 1 < declarations.size then
    let next ← entryAt declarations.toList (position + 1 : Nat)
    return some ⟨first, next - 1, directive.ids⟩
  else
    return some ⟨first, total, directive.ids⟩

/-- The ranges of the function and block directives, and the lines of those without effect. -/
def pairUp (declarations : Array Int) (total : Int) :
    List Directive → List Directive → Except Mishap (List LineRange × List Int)
  | begun, [] => return ([], begun.map (·.line))
  | begun, directive :: rest =>
    match directive.kind with
    | .function => do
      let range ← functionRange declarations total directive
      let (ranges, unmatched) ← pairUp declarations total begun rest
      match range with
      | some range => return (range :: ranges, unmatched)
      | none => return (ranges, directive.line :: unmatched)
    | .blockStart => pairUp declarations total (directive :: begun) rest
    | .blockEnd =>
      match begun with
      | start :: outer => do
        let (ranges, unmatched) ← pairUp declarations total outer rest
        return (⟨start.line, directive.line, start.ids⟩ :: ranges, unmatched)
      | [] => do
        let (ranges, unmatched) ← pairUp declarations total [] rest
        return (ranges, directive.line :: unmatched)
    | _ => pairUp declarations total begun rest

/-- The index of a script. -/
def index (script : List (List Char)) : Except Mishap Suppression := do
  let lines := Script.numbered 1 script
  let found ← List.flatten <$> lines.mapM directivesOn
  let (ranges, unmatched) ←
    pairUp (Suppression.declarationLines lines).toArray script.length [] found
  return .of
    ((found.filter fun d => d.kind == .file && d.line ≤ Suppression.headerLines).map (·.ids))
    ((found.filter (·.kind == .below)).map fun d => ⟨d.line, d.ids⟩)
    ranges (Suppression.tableOf .line found) (Suppression.tableOf .nextLine found)
    (unmatched.mergeSort fun a b => decide (a ≤ b))

/-- A declaration is taken only at a position that the search or the comparison has shown to exist.

**Proof sketch.** The position that the search gives is compared with the number of declarations
before the entry is taken, and so is the next one. -/
lemma functionRange_eq_ok (declarations : Array Int) (total : Int) (directive : Directive) :
    functionRange declarations total directive =
      .ok (Suppression.functionRange? declarations total directive) := by
  unfold functionRange Suppression.functionRange?
  simp only [search_eq_ok, ok_bind]
  generalize upperBound declarations directive.line = position
  by_cases hfirst : declarations.size ≤ position
  · rw [if_pos hfirst, Array.getElem?_eq_none hfirst]
    rfl
  · have hposition := Nat.not_le.mp hfirst
    simp only [if_neg hfirst, entryAt_toList hposition, ok_bind,
      Array.getElem?_eq_getElem hposition, Option.map_some]
    by_cases hnext : position + 1 < declarations.size
    · simp only [if_pos hnext, entryAt_toList hnext, ok_bind,
        Array.getElem?_eq_getElem hnext, pure_eq_ok]
    · simp only [if_neg hnext, Array.getElem?_eq_none (Nat.not_lt.mp hnext), pure_eq_ok]

/-- **Blocks and function ranges are made without mishap.**

**Proof sketch.** Induction on the directives, for any blocks that are open.  Each kind of directive
takes one branch; only that of a function looks up entries, and they exist. -/
lemma pairUp_eq_ok (declarations : Array Int) (total : Int) (begun found : List Directive) :
    pairUp declarations total begun found =
      .ok (Suppression.pairUp declarations total begun found) := by
  induction found generalizing begun with
  | nil => rfl
  | cons directive rest ih =>
    unfold pairUp Suppression.pairUp
    cases directive.kind with
    | function =>
      simp only [functionRange_eq_ok, ih, ok_bind]
      cases Suppression.functionRange? declarations total directive <;> rfl
    | blockStart => exact ih _
    | blockEnd =>
      cases begun with
      | nil => simp only [ih, ok_bind, pure_eq_ok]
      | cons start outer => simp only [ih, ok_bind, pure_eq_ok]
    | file => exact ih _
    | below => exact ih _
    | nextLine => exact ih _
    | line => exact ih _

/-- **The index of a script is built without mishap.** -/
lemma index_eq_ok (script : List (List Char)) :
    index script = .ok (Suppression.ofLines script) := by
  have hfound : List.flatten <$> (Script.numbered 1 script).mapM directivesOn =
      .ok (Suppression.directives (Script.numbered 1 script)) := by
    rw [mapM_eq_ok directivesOn_eq_ok]
    rfl
  simp only [index, hfound, pairUp_eq_ok, ok_bind]
  rfl

/-! ## Looking up an index -/

/-- Whether a range of the index leaves out a check on a line. -/
def hidesInRange (index : Suppression) (line : Int) (id : String) : Except Mishap Bool := do
  let begun ← search (index.ranges.map (·.first)).toArray line
  let ranges ← entriesBefore index.ranges begun
  return ranges.any (·.hides line id)

/-- Whether the index leaves out a check on a line.  The parts of the index are tried one after the
other. -/
def hides (index : Suppression) (line : Int) (id : String) : Except Mishap Bool := do
  if Suppression.anyCovers index.fileWide id then
    return true
  if index.below.any (·.hides line id) then
    return true
  if ← hidesInRange index line id then
    return true
  if Suppression.anyCovers (index.sameLine.row line) id then
    return true
  return Suppression.anyCovers (index.nextLine.row (line - 1)) id

/-- The ranges of an index are looked up without mishap: the search ends inside the ranges or behind
the last one. -/
lemma hidesInRange_eq_ok (index : Suppression) (line : Int) (id : String) :
    hidesInRange index line id = .ok (index.hidesInRange line id) := by
  have hbegun : upperBound (index.ranges.map (·.first)).toArray line ≤ index.ranges.length := by
    simpa using upperBound_le_size (index.ranges.map (·.first)).toArray line
  simp only [hidesInRange, search_eq_ok, ok_bind, entriesBefore, if_pos hbegun]
  rfl

/-- **An index is looked up without mishap**, also at lines that the script does not have.

**Proof sketch.** The tables are asked one after the other, and the first that hides the line ends
the search, in both alike. -/
lemma hides_eq_ok (index : Suppression) (line : Int) (id : String) :
    hides index line id = .ok (index.hides line id) := by
  simp only [hides, Suppression.hides, hidesInRange_eq_ok, ok_bind, pure_eq_ok]
  cases Suppression.anyCovers index.fileWide id with
  | true => rfl
  | false =>
    cases index.below.any (·.hides line id) with
    | true => rfl
    | false =>
      cases index.hidesInRange line id with
      | true => rfl
      | false => cases Suppression.anyCovers (index.sameLine.row line) id <;> rfl

end Checked

end ScriptAudit
