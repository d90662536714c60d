import ScriptAudit.Text.Blank

/-!
# Searching and splitting

Plain searches in a list of characters, and the one loop behind every recogniser that looks for all
its matches in a line: leftmost first, never overlapping, each attempt knowing the character that
stands before it.

## Main definitions

* `ScriptAudit.Text.occursIn` — whether a pattern stands somewhere in a text.
* `ScriptAudit.Text.afterFirst?` — what follows the first occurrence of a pattern.
* `ScriptAudit.Text.entries` — the trimmed, non-empty entries of a comma-separated list.
* `ScriptAudit.Text.Recogniser`, `ScriptAudit.Text.findAll` — recognisers and all their matches.

## Implementation notes

`findAll` walks over every character, so it is structurally recursive whatever a recogniser
answers: after a match it passes over the characters that the match took.  A recogniser that takes
nothing still moves the search on by one character.
-/

set_option autoImplicit false

namespace ScriptAudit.Text

variable {α : Type}

/-- Whether `pattern` stands somewhere in the text. -/
def occursIn (pattern : List Char) : List Char → Bool
  | [] => pattern.isEmpty
  | c :: rest => pattern.isPrefixOf (c :: rest) || occursIn pattern rest

/-- A pattern occurs in a text if it is a part of it without gaps. -/
theorem occursIn_iff (pattern text : List Char) :
    occursIn pattern text = true ↔ pattern <:+: text := by
  induction text with
  | nil => rw [occursIn, List.isEmpty_iff, List.infix_nil]
  | cons c rest ih =>
    rw [occursIn, Bool.or_eq_true, List.isPrefixOf_iff_prefix, ih, List.infix_cons_iff]

/-- What follows the first occurrence of `pattern`. -/
def afterFirst? (pattern : List Char) : List Char → Option (List Char)
  | [] => if pattern.isEmpty then some [] else none
  | c :: rest =>
    match pattern.isPrefixOf? (c :: rest) with
    | some after => some after
    | none => afterFirst? pattern rest

/-- The entries of a comma-separated list: each trimmed, the empty ones dropped. -/
def entries (text : List Char) : List (List Char) :=
  ((text.splitOn ',').map trim).filter (!·.isEmpty)

/-- The entries of items with commas between them, and with blanks around each, are these items,
provided that none is empty and no comma stands in one. -/
theorem entries_intercalate (piece item : α → List Char) (xs : List α)
    (hpiece : ∀ x ∈ xs, ',' ∉ piece x) (htrim : ∀ x ∈ xs, trim (piece x) = item x)
    (hitem : ∀ x ∈ xs, item x ≠ []) : entries ([','].intercalate (xs.map piece)) = xs.map item := by
  cases xs with
  | nil => rfl
  | cons x more =>
    have hsplit : ([','].intercalate ((x :: more).map piece)).splitOn ',' =
        (x :: more).map piece := by
      apply List.splitOn_intercalate
      · intro text htext
        obtain ⟨y, hy, rfl⟩ := List.mem_map.mp htext
        exact hpiece y hy
      · exact List.cons_ne_nil _ _
    have hitems : ((x :: more).map piece).map trim = (x :: more).map item := by
      rw [List.map_map]
      exact List.map_congr_left htrim
    rw [entries, hsplit, hitems, List.filter_eq_self]
    intro text htext
    obtain ⟨y, hy, rfl⟩ := List.mem_map.mp htext
    simpa using hitem y hy

/-- A recogniser is given the character before a position, if there is one, and the text from that
position on.  It answers with what it found and the text behind it. -/
abbrev Recogniser (α : Type) := Option Char → List Char → Option (α × List Char)

/-- The matches of a recogniser in a text, after passing over its first `skip` characters. -/
def findFrom (find : Recogniser α) : (skip : Nat) → Option Char → List Char → List α
  | _, _, [] => []
  | skip + 1, _, c :: rest => findFrom find skip (some c) rest
  | 0, before, c :: rest =>
    match find before (c :: rest) with
    | some (found, after) => found :: findFrom find (rest.length - after.length) (some c) rest
    | none => findFrom find 0 (some c) rest

/-- Passing over characters leaves the matches of the rest, where the last character passed over
stands before it. -/
theorem findFrom_append (find : Recogniser α) (before : Option Char) (taken rest : List Char) :
    findFrom find taken.length before (taken ++ rest) =
      findFrom find 0 (taken.getLast?.or before) rest := by
  induction taken generalizing before with
  | nil => simp
  | cons c more ih =>
    rw [List.length_cons, List.cons_append, findFrom, ih, List.getLast?_cons]
    cases h : more.getLast? <;> simp

/-- Where a recogniser finds nothing, the search moves on by one character. -/
theorem findFrom_of_eq_none {find : Recogniser α} {before : Option Char} {c : Char}
    {rest : List Char} (h : find before (c :: rest) = none) :
    findFrom find 0 before (c :: rest) = findFrom find 0 (some c) rest := by
  rw [findFrom, h]

/-- Where a recogniser finds something, the search moves on behind what was found. -/
theorem findFrom_of_eq_some {find : Recogniser α} {before : Option Char} {c : Char}
    {more rest : List Char} {found : α} (h : find before (c :: more ++ rest) = some (found, rest)) :
    findFrom find 0 before (c :: more ++ rest) =
      found :: findFrom find 0 (c :: more).getLast? rest := by
  have hskip : (more ++ rest).length - rest.length = more.length := by simp
  rw [List.cons_append] at h ⊢
  rw [findFrom, h]
  simp only [hskip, findFrom_append, List.getLast?_cons]
  cases more.getLast? <;> rfl

/-- All matches of a recogniser in a text, leftmost first and without overlap. -/
def findAll (find : Recogniser α) (text : List Char) : List α := findFrom find 0 none text

end ScriptAudit.Text
