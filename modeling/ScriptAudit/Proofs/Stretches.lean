import Mathlib.Data.List.Infix
import Mathlib.Data.List.TakeWhile
import Mathlib.Tactic.Common
import ScriptAudit.Text.Search

/-!
# Stretches of a class of characters

A stretch is a maximal run of characters of some class: neighbouring characters of the class always
belong to the same stretch.  Words are the stretches of word characters.  Recognisers that look at
the characters on both sides of what they find are meant to find whole stretches and never parts of
them; here are the stretches of a text, without any recogniser, and what a search does with them.

## Main definitions

* `ScriptAudit.Text.Stretch`, `ScriptAudit.Text.Stretch.IsMaximal` — a part of a text, and when it
  is a stretch.
* `ScriptAudit.Text.stretches` — the stretches of a text from left to right.

## Main results

* `ScriptAudit.Text.mem_stretches_iff`, `ScriptAudit.Text.pairwise_stretches` — the list holds
  exactly the maximal runs, each at its place.
* `ScriptAudit.Text.stretch_induction` — a text is read character by character outside stretches,
  and stretch by stretch otherwise.
* `ScriptAudit.Text.findFrom_stretch` — a search that finds whole stretches or nothing.
* `ScriptAudit.Text.map_text_stretches_append` — a character outside the class separates the
  stretches on its left from those on its right. -/

set_option relaxedAutoImplicit false
set_option autoImplicit false

namespace ScriptAudit.Text

/-! ## Maximal runs -/

/-- A part of a text, with what stands before and behind it. -/
structure Stretch where
  before : List Char
  text : List Char
  after : List Char
  deriving DecidableEq

/-- **A maximal run of a class** in a text: it is not empty, it consists of characters of the class,
and no character of the class touches it. -/
structure Stretch.IsMaximal (inClass : Char → Bool) (whole : List Char) (s : Stretch) : Prop where
  whole_eq : whole = s.before ++ (s.text ++ s.after)
  ne_nil : s.text ≠ []
  all_inClass : s.text.all inClass = true
  before_free : s.before.getLast?.any inClass = false
  after_free : s.after.head?.any inClass = false

/-- The stretch that begins where a text is divided, if one begins there. -/
def stretchAt? (inClass : Char → Bool) (before rest : List Char) : Option Stretch :=
  if before.getLast?.any inClass || !rest.head?.any inClass then none
  else some ⟨before, rest.takeWhile inClass, rest.dropWhile inClass⟩

/-- The stretches that begin in the rest of a text, given what stands before the rest. -/
def stretchesFrom (inClass : Char → Bool) : (before rest : List Char) → List Stretch
  | _, [] => []
  | before, c :: rest =>
    (stretchAt? inClass before (c :: rest)).toList ++ stretchesFrom inClass (before ++ [c]) rest

/-- **The stretches of a text**, from left to right. -/
def stretches (inClass : Char → Bool) (text : List Char) : List Stretch :=
  stretchesFrom inClass [] text

section Reading

variable {inClass : Char → Bool}

section Run

variable {run after : List Char} (hrun : run.all inClass = true)
  (hafter : after.head?.any inClass = false)
include hrun hafter

/-- A run is taken off whole. -/
lemma takeWhile_run : (run ++ after).takeWhile inClass = run := by
  rw [List.takeWhile_append_of_pos (List.all_eq_true.mp hrun)]
  cases after with
  | nil => simp
  | cons c rest =>
    have hc : inClass c = false := hafter
    simp [hc]

/-- Behind a run stands what follows it. -/
lemma dropWhile_run : (run ++ after).dropWhile inClass = after := by
  rw [List.dropWhile_append_of_pos (List.all_eq_true.mp hrun)]
  cases after with
  | nil => rfl
  | cons c rest =>
    have hc : inClass c = false := hafter
    simp [hc]

end Run

/-- Behind a maximal run no character of the class follows. -/
lemma any_head?_dropWhile (text : List Char) :
    (text.dropWhile inClass).head?.any inClass = false := by
  have hstop := List.head?_dropWhile_not inClass text
  cases h : (text.dropWhile inClass).head? with
  | none => rfl
  | some c =>
    rw [h] at hstop
    exact hstop

/-- A text that begins with a run begins with a character of the class. -/
lemma any_head?_append {run : List Char} (hne : run ≠ []) (hrun : run.all inClass = true)
    (after : List Char) : (run ++ after).head?.any inClass = true := by
  cases run with
  | nil => exact absurd rfl hne
  | cons c more =>
    rw [List.all_cons, Bool.and_eq_true] at hrun
    exact hrun.1

/-- A stretch begins where a text is divided exactly if some maximal run has that place.

**Proof sketch.** A stretch begins where a character of the class stands and none before it, and it
takes all that follow.  What it takes is not empty, lies in the class and is followed by none of
it.  Conversely a maximal run is what is taken at its place. -/
lemma stretchAt?_eq_some_iff (before rest : List Char) (s : Stretch) :
    stretchAt? inClass before rest = some s ↔
      s.IsMaximal inClass (before ++ rest) ∧ s.before = before := by
  unfold stretchAt?
  constructor
  · intro h
    split at h
    · simp at h
    · next hbegins =>
      obtain rfl := Option.some.inj h
      simp only [Bool.or_eq_true, Bool.not_eq_true', not_or, Bool.not_eq_true,
        Bool.not_eq_false] at hbegins
      refine ⟨⟨?_, ?_, List.all_takeWhile, hbegins.1, any_head?_dropWhile rest⟩, rfl⟩
      · rw [List.takeWhile_append_dropWhile]
      · cases rest with
        | nil => simp at hbegins
        | cons c more =>
          have hc : inClass c = true := hbegins.2
          simp [hc]
  · rintro ⟨⟨hwhole, hne, hall, hbefore, hafter⟩, rfl⟩
    obtain ⟨before, text, after⟩ := s
    obtain rfl : rest = text ++ after := List.append_cancel_left hwhole
    have hbegins : (before.getLast?.any inClass || !(text ++ after).head?.any inClass) = false := by
      rw [any_head?_append hne hall]
      simpa using hbefore
    rw [hbegins, takeWhile_run hall hafter, dropWhile_run hall hafter]
    rfl

/-- **The stretches from a place on** are the maximal ones that do not begin before it.

**Proof sketch.** Induction on what is left of the text.  A maximal stretch that does not begin
before a place begins right there, or it begins behind the next character. -/
lemma mem_stretchesFrom_iff (before rest : List Char) (s : Stretch) :
    s ∈ stretchesFrom inClass before rest ↔
      s.IsMaximal inClass (before ++ rest) ∧ before <+: s.before := by
  induction rest generalizing before with
  | nil =>
    simp only [stretchesFrom, List.not_mem_nil, List.append_nil, false_iff, not_and]
    rintro ⟨hwhole, hne, -, -, -⟩ hbefore
    -- the run would stand behind the whole text
    have hlength := hbefore.length_le
    rw [hwhole, List.length_append, List.length_append] at hlength
    have hpos := List.length_pos_iff.mpr hne
    omega
  | cons c rest ih =>
    rw [stretchesFrom, List.mem_append, Option.mem_toList, stretchAt?_eq_some_iff, ih,
      List.append_assoc, List.singleton_append, ← and_or_left]
    refine and_congr_right fun hmaximal => ⟨?_, ?_⟩
    · rintro (rfl | hlonger)
      · exact List.prefix_rfl
      · exact (List.prefix_append before [c]).trans hlonger
    · rintro ⟨more, hmore⟩
      cases more with
      | nil => exact Or.inl (by simpa using hmore.symm)
      | cons d more =>
        -- the run begins further right, so the next character stands before it
        have hwhole := hmaximal.whole_eq
        rw [← hmore, List.append_assoc, List.append_cancel_left_eq, List.cons_append,
          List.cons.injEq] at hwhole
        obtain ⟨rfl, -⟩ := hwhole
        exact Or.inr ⟨more, by rw [← hmore, List.append_assoc, List.singleton_append]⟩

/-- Stretches are listed from left to right.

**Proof sketch.** Induction on the rest.  What is found here has the place reached so far, and what
is found later has passed at least one character more. -/
lemma pairwise_stretchesFrom (before rest : List Char) :
    (stretchesFrom inClass before rest).Pairwise fun s t => s.before.length < t.before.length := by
  induction rest generalizing before with
  | nil => exact List.Pairwise.nil
  | cons c rest ih =>
    rw [stretchesFrom, List.pairwise_append]
    refine ⟨by cases stretchAt? inClass before (c :: rest) <;> simp, ih _, fun s hs t ht => ?_⟩
    have hfirst := ((stretchAt?_eq_some_iff _ _ s).mp (Option.mem_toList.mp hs)).2
    have hlater := ((mem_stretchesFrom_iff _ _ t).mp ht).2.length_le
    rw [hfirst]
    rw [List.length_append, List.length_singleton] at hlater
    omega

/-- **The stretches of a text are its maximal runs.** -/
theorem mem_stretches_iff (text : List Char) (s : Stretch) :
    s ∈ stretches inClass text ↔ s.IsMaximal inClass text := by
  rw [stretches, mem_stretchesFrom_iff, List.nil_append]
  exact and_iff_left List.nil_prefix

/-- The stretches of a text come in the order in which they stand in it. -/
theorem pairwise_stretches (text : List Char) :
    (stretches inClass text).Pairwise fun s t => s.before.length < t.before.length :=
  pairwise_stretchesFrom [] text

/-! ## Reading stretch by stretch -/

/-- A character outside the class is passed over. -/
lemma stretchesFrom_cons_of_not_inClass {c : Char} (hc : inClass c = false)
    (before rest : List Char) :
    stretchesFrom inClass before (c :: rest) = stretchesFrom inClass (before ++ [c]) rest := by
  rw [stretchesFrom, stretchAt?, if_pos (by simp [hc])]
  rfl

/-- No stretch begins inside another one. -/
lemma stretchesFrom_append_of_inClass {before : List Char}
    (hbefore : before.getLast?.any inClass = true)
    {run : List Char} (hrun : run.all inClass = true) (after : List Char) :
    stretchesFrom inClass before (run ++ after) = stretchesFrom inClass (before ++ run) after := by
  induction run generalizing before with
  | nil => simp
  | cons c more ih =>
    rw [List.all_cons, Bool.and_eq_true] at hrun
    have hnext : (before ++ [c]).getLast?.any inClass = true := by simp [hrun.1]
    rw [List.cons_append, stretchesFrom, stretchAt?, if_pos (by simp [hbefore]), Option.toList_none,
      List.nil_append, ih hnext hrun.2, List.append_assoc, List.singleton_append]

/-- A run between characters outside the class is a stretch, and the search goes on behind it.

**Proof sketch.** The run is a maximal one, so it is found at its first character.  At its other
characters a character of the class stands before, so nothing else is found until the run is
passed. -/
lemma stretchesFrom_append {before run after : List Char} (hne : run ≠ [])
    (hrun : run.all inClass = true)
    (hbefore : before.getLast?.any inClass = false) (hafter : after.head?.any inClass = false) :
    stretchesFrom inClass before (run ++ after) =
      ⟨before, run, after⟩ :: stretchesFrom inClass (before ++ run) after := by
  have hfirst : stretchAt? inClass before (run ++ after) = some ⟨before, run, after⟩ :=
    (stretchAt?_eq_some_iff _ _ _).mpr ⟨⟨rfl, hne, hrun, hbefore, hafter⟩, rfl⟩
  cases run with
  | nil => exact absurd rfl hne
  | cons c more =>
    rw [List.all_cons, Bool.and_eq_true] at hrun
    have hnext : (before ++ [c]).getLast?.any inClass = true := by simp [hrun.1]
    rw [List.cons_append] at hfirst ⊢
    rw [stretchesFrom, hfirst, stretchesFrom_append_of_inClass hnext hrun.2, List.append_assoc,
      List.singleton_append]
    rfl

/-- **Induction along the stretches of a text.**  Outside stretches the text is read character by
character; a stretch is read as a whole.

**Proof sketch.** Strong induction on the length of the rest.  If its first character belongs to
the class, the rest divides into the characters of the class in front and what follows them; the
reading goes on behind a stretch with a character outside the class or at the end, so no stretch is
ever read in parts. -/
theorem stretch_induction {motive : (before rest : List Char) → Prop}
    (nil : ∀ before, motive before [])
    (outside : ∀ before c rest, inClass c = false → motive (before ++ [c]) rest →
      motive before (c :: rest))
    (stretch : ∀ before run after, run ≠ [] → run.all inClass = true →
      before.getLast?.any inClass = false → after.head?.any inClass = false →
      motive (before ++ run) after → motive before (run ++ after))
    (before rest : List Char)
    (h : before.getLast?.any inClass = false ∨ rest.head?.any inClass = false) :
    motive before rest := by
  induction hlength : rest.length using Nat.strong_induction_on generalizing before rest with
  | _ n ih =>
    cases rest with
    | nil => exact nil before
    | cons c more =>
      cases hc : inClass c with
      | false =>
        refine outside before c more hc (ih more.length ?_ _ more (Or.inl ?_) rfl)
        · rw [← hlength, List.length_cons]
          omega
        · simp [hc]
      | true =>
        have hbefore : before.getLast?.any inClass = false := h.resolve_right (by simp [hc])
        have hsplit := List.takeWhile_append_dropWhile (p := inClass) (l := c :: more)
        have hne : (c :: more).takeWhile inClass ≠ [] := by simp [hc]
        have hafter : ((c :: more).dropWhile inClass).head?.any inClass = false :=
          any_head?_dropWhile _
        have hshorter : ((c :: more).dropWhile inClass).length < n := by
          rw [← hlength, List.dropWhile_cons_of_pos hc, List.length_cons]
          have := List.length_dropWhile_le inClass more
          omega
        rw [← hsplit]
        exact stretch before _ _ hne List.all_takeWhile hbefore hafter
          (ih _ hshorter _ _ (Or.inr hafter) rfl)

/-! ## Searches -/

section Search

variable {α : Type} {find : Recogniser α}
  (hblocked : ∀ c text, inClass c = true → find (some c) text = none)
include hblocked

/-- A search that finds nothing behind a character of the class finds nothing inside a run.

**Proof sketch.** Induction on the run: behind each of its characters the search fails and moves on
by one. -/
lemma findFrom_inside {c : Char} {more : List Char} (h : (c :: more).all inClass = true)
    (after : List Char) :
    findFrom find 0 (some c) (more ++ after) = findFrom find 0 (c :: more).getLast? after := by
  induction more generalizing c with
  | nil => rfl
  | cons d more ih =>
    rw [List.all_cons, Bool.and_eq_true] at h
    rw [List.cons_append, findFrom_of_eq_none (hblocked c _ h.1), ih h.2, List.getLast?_cons_cons]

/-- **Searching stretch by stretch.**  If a recogniser finds nothing behind a character that is in
the class, and finds a whole stretch or nothing at its beginning, then the search goes on behind
the stretch.

**Proof sketch.** If the stretch is found, the search goes on behind it.  If nothing is found at its
beginning, then nothing is found at any later character of it, since a character of the class stands
before. -/
lemma findFrom_stretch {run : List Char} (hne : run ≠ []) (hrun : run.all inClass = true)
    {before : Option Char} {after : List Char} {found : Option α}
    (h : find before (run ++ after) = found.map (·, after)) :
    findFrom find 0 before (run ++ after) = found.toList ++ findFrom find 0 run.getLast? after := by
  cases run with
  | nil => exact absurd rfl hne
  | cons c more =>
    cases found with
    | some x => exact findFrom_of_eq_some h
    | none =>
      rw [List.cons_append] at h ⊢
      rw [findFrom_of_eq_none h, findFrom_inside hblocked hrun]
      rfl

end Search

/-! ## Separated stretches -/

/-- Which texts the stretches have depends on what stands before a text only in so far as it may
continue a stretch. -/
lemma map_text_stretchesFrom_congr {before before' : List Char}
    (h : before.getLast?.any inClass = before'.getLast?.any inClass) (rest : List Char) :
    (stretchesFrom inClass before rest).map Stretch.text =
      (stretchesFrom inClass before' rest).map Stretch.text := by
  induction rest generalizing before before' with
  | nil => rfl
  | cons c rest ih =>
    have hnext : (before ++ [c]).getLast?.any inClass =
        (before' ++ [c]).getLast?.any inClass := by simp
    rw [stretchesFrom, stretchesFrom, List.map_append, List.map_append, ih hnext, stretchAt?,
      stretchAt?, h]
    split <;> rfl

/-- A run at the beginning of a text ends at a separator at the latest. -/
lemma takeWhile_append_separator {separator : Char} (h : inClass separator = false)
    (s t : List Char) :
    (s ++ separator :: t).takeWhile inClass = s.takeWhile inClass := by
  induction s with
  | nil => simp [h]
  | cons c rest ih => rw [List.cons_append, List.takeWhile_cons, List.takeWhile_cons, ih]

/-- **A separator divides the stretches** of a text into those before it and those behind it.

**Proof sketch.** Induction along the stretches of the first part; no stretch goes on across the
separator. -/
lemma map_text_stretchesFrom_append {separator : Char} (h : inClass separator = false)
    (before s t : List Char) :
    (stretchesFrom inClass before (s ++ separator :: t)).map Stretch.text =
      (stretchesFrom inClass before s).map Stretch.text ++
        (stretches inClass t).map Stretch.text := by
  induction s generalizing before with
  | nil =>
    rw [List.nil_append, stretchesFrom_cons_of_not_inClass h]
    exact map_text_stretchesFrom_congr (by simp [h]) t
  | cons c rest ih =>
    rw [List.cons_append, stretchesFrom, stretchesFrom, List.map_append, List.map_append, ih,
      List.append_assoc, stretchAt?, stretchAt?, ← List.cons_append, takeWhile_append_separator h,
      List.cons_append, List.head?_cons, List.head?_cons]
    split <;> rfl

/-- **A separator.**  A character outside the class separates the stretches on its left from those
on its right. -/
theorem map_text_stretches_append {separator : Char} (h : inClass separator = false)
    (s t : List Char) :
    (stretches inClass (s ++ separator :: t)).map Stretch.text =
      (stretches inClass s).map Stretch.text ++ (stretches inClass t).map Stretch.text :=
  map_text_stretchesFrom_append h [] s t

end Reading

end ScriptAudit.Text
