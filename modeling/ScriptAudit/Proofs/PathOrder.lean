import Mathlib.Data.List.Infix
import Mathlib.Data.String.Basic
import ScriptAudit.Analysis.Run

/-!
# The order of the files of a run

A run leaves out the files that the settings exclude, analyses each of the others on its own, and
lists the reports by path, those with equal paths in the order of the sources.  The list is thereby
determined: it does not matter how sources with different paths are mixed, or what else is excluded.

## Main definitions

* `ScriptAudit.IsStableSort` — a list is another one in the order of a key, and entries with equal
  keys keep their order.

## Main results

* `ScriptAudit.textLe_toList_iff` — texts are compared by code points.
* `ScriptAudit.eq_of_pairwise_of_filter_eq` — an ordered list is determined by its entries of each
  key.
* `ScriptAudit.isStableSort_iff` — there is exactly one stable sort.
* `ScriptAudit.Run.files_ofSources_iff` — the files of a run are the stable sort of the reports.
-/

set_option relaxedAutoImplicit false
set_option autoImplicit false

namespace ScriptAudit

/-! ## Comparing texts -/

/-- Texts are compared lexicographically.

**Proof sketch.** Induction along the comparison.  Equal characters are passed over, and the first
two that differ decide. -/
lemma textLe_iff (as bs : List Char) : textLe as bs = true ↔ ¬ bs < as := by
  fun_induction textLe as bs with
  | case1 bs => exact iff_of_true rfl (List.not_lt_nil bs)
  | case2 a as => simp
  | case3 as b bs ih =>
    rw [ih, List.cons_lt_cons_iff]
    simp
  | case4 a as b bs hne =>
    have hlt : ¬ b < a ↔ a < b :=
      ⟨fun h => lt_of_le_of_ne (not_lt.mp h) hne, fun h => not_lt_of_gt h⟩
    rw [decide_eq_true_eq, List.cons_lt_cons_iff, not_or, hlt]
    constructor
    · intro h
      exact ⟨h, fun heq => hne heq.1.symm⟩
    · intro h
      exact h.1

/-- **Code points.**  Texts are compared as strings are, code point by code point. -/
lemma textLe_toList_iff (a b : String) : textLe a.toList b.toList = true ↔ a ≤ b := by
  rw [textLe_iff, ← String.lt_iff_toList_lt, not_lt]

/-- Comparing texts is transitive. -/
lemma textLe_trans {a b c : String} (hab : textLe a.toList b.toList = true)
    (hbc : textLe b.toList c.toList = true) : textLe a.toList c.toList = true := by
  rw [textLe_toList_iff] at hab hbc ⊢
  exact le_trans hab hbc

/-- Any two texts can be compared. -/
lemma textLe_total (a b : String) :
    (textLe a.toList b.toList || textLe b.toList a.toList) = true := by
  rw [Bool.or_eq_true, textLe_toList_iff, textLe_toList_iff]
  exact le_total a b

/-! ## Stable sorts -/

/-- **Stable sort.**  The entries of a list in the order of a key, where entries with equal keys
stand in the order in which they were given. -/
structure IsStableSort {α : Type} (key : α → String) (given sorted : List α) : Prop where
  /-- The keys increase. -/
  ordered : sorted.Pairwise fun a b => key a ≤ key b
  /-- No entry is lost, doubled or made up. -/
  perm : sorted.Perm given
  /-- Entries with equal keys keep their order. -/
  stable : ∀ k, sorted.filter (key · = k) = given.filter (key · = k)

section Sorting

variable {α : Type} {key : α → String}

/-- If two lists have the same entries of each key, the entries of one are entries of the other. -/
lemma mem_of_filter_eq {as bs : List α} (h : ∀ k, as.filter (key · = k) = bs.filter (key · = k))
    {a : α} (ha : a ∈ as) : a ∈ bs := by
  have hfilter : a ∈ as.filter (key · = key a) := by simp [ha]
  rw [h (key a)] at hfilter
  exact List.mem_of_mem_filter hfilter

/-- **An ordered list is determined by its entries of each key.**

**Proof sketch.** By induction on the first list.  Its head is the first entry of its key in the
second list, too.  What stands before it there has a key that is no greater, because the second list
is ordered, and no smaller, because it occurs in the first list, whose head is the least. -/
lemma eq_of_pairwise_of_filter_eq {as bs : List α} (has : as.Pairwise fun a b => key a ≤ key b)
    (hbs : bs.Pairwise fun a b => key a ≤ key b)
    (h : ∀ k, as.filter (key · = k) = bs.filter (key · = k)) : as = bs := by
  induction as generalizing bs with
  | nil =>
    cases bs with
    | nil => rfl
    | cons b bs =>
      exact absurd (mem_of_filter_eq (fun k => (h k).symm) List.mem_cons_self) List.not_mem_nil
  | cons a as ih =>
    cases bs with
    | nil => exact absurd (mem_of_filter_eq h List.mem_cons_self) List.not_mem_nil
    | cons b bs =>
      obtain ⟨hleast, has⟩ := List.pairwise_cons.mp has
      obtain ⟨hleast', hbs⟩ := List.pairwise_cons.mp hbs
      have hba : key b ≤ key a := by
        rcases List.mem_cons.mp (mem_of_filter_eq h List.mem_cons_self) with rfl | ha
        · exact le_rfl
        · exact hleast' a ha
      have hab : key a ≤ key b := by
        rcases List.mem_cons.mp
          (mem_of_filter_eq (fun k => (h k).symm) List.mem_cons_self) with rfl | hb
        · exact le_rfl
        · exact hleast b hb
      have hkey : key b = key a := le_antisymm hba hab
      have hhead : a = b := by
        have hfirst := h (key a)
        simp only [List.filter_cons, hkey, decide_true, if_true] at hfirst
        exact (List.cons.inj hfirst).1
      have htail : ∀ k, as.filter (key · = k) = bs.filter (key · = k) := by
        intro k
        have hk := h k
        rw [← hhead, List.filter_cons, List.filter_cons] at hk
        split at hk
        · exact (List.cons.inj hk).2
        · exact hk
      rw [hhead, ih has hbs htail]

/-- Sorting by a key is stable.

**Proof sketch.** Sorting by merging is stable in that it keeps every sublist that is in order.  The
entries of one key are, since they are all equal in this order; so they are a sublist of the sorted
list, and as many as there are in it. -/
lemma isStableSort_mergeSort (key : α → String) (given : List α) :
    IsStableSort key given
      (given.mergeSort fun a b => textLe (key a).toList (key b).toList) := by
  have htrans : ∀ a b c : α, textLe (key a).toList (key b).toList = true →
      textLe (key b).toList (key c).toList = true → textLe (key a).toList (key c).toList = true :=
    fun _ _ _ => textLe_trans
  have htotal := fun a b : α => textLe_total (key a) (key b)
  have hperm := List.mergeSort_perm given fun a b => textLe (key a).toList (key b).toList
  refine ⟨?_, hperm, ?_⟩
  · exact (List.pairwise_mergeSort htrans htotal given).imp fun h => (textLe_toList_iff _ _).mp h
  · intro k
    -- entries of one key are in order as they are given, so sorting keeps them as a sublist
    have hordered : (given.filter (key · = k)).Pairwise fun a b =>
        textLe (key a).toList (key b).toList = true := by
      apply List.pairwise_of_forall_mem_list
      intro a ha b hb
      have hkey : key a = key b := by
        rw [of_decide_eq_true (List.mem_filter.mp ha).2,
          of_decide_eq_true (List.mem_filter.mp hb).2]
      rw [textLe_toList_iff, hkey]
    have hsub :=
      (List.sublist_mergeSort htrans htotal hordered List.filter_sublist).filter (key · = k)
    simp only [List.filter_filter, Bool.and_self] at hsub
    exact (hsub.eq_of_length (hperm.filter _).length_eq.symm).symm

/-- **The stable sort is unique**, and sorting computes it.

**Proof sketch.** Two lists in order, with the same entries for each key in the same order, are
equal. -/
lemma isStableSort_iff {given sorted : List α} :
    IsStableSort key given sorted ↔
      sorted = given.mergeSort fun a b => textLe (key a).toList (key b).toList := by
  have hsort := isStableSort_mergeSort key given
  constructor
  · intro h
    apply eq_of_pairwise_of_filter_eq h.ordered hsort.ordered
    intro k
    rw [h.stable, hsort.stable]
  · rintro rfl
    exact hsort

end Sorting

/-! ## Excluded paths -/

/-- A path is excluded if one of the excluded fragments is a part of it. -/
lemma Settings.excludes_iff (settings : Settings) (path : String) :
    settings.excludes path = true ↔
      ∃ fragment ∈ settings.patterns .excludedPaths, fragment.toList <:+: path.toList := by
  simp only [Settings.excludes, List.any_eq_true, Text.occursIn_iff]

namespace Run

/-- A run looks at the sources whose paths hold no excluded fragment. -/
lemma included_eq_filter (settings : Settings) (sources : List (String × String)) :
    included settings sources = sources.filter fun source =>
      ∀ fragment ∈ settings.patterns .excludedPaths, ¬ fragment.toList <:+: source.1.toList := by
  unfold included
  apply List.filter_congr
  rintro ⟨path, text⟩ -
  rw [Bool.eq_iff_iff, Bool.not_eq_true', ← Bool.not_eq_true, settings.excludes_iff,
    decide_eq_true_eq]
  simp only [not_exists, not_and]

/-- Excluded sources make no difference. -/
lemma ofSources_insert_excluded {settings : Settings} {path : String}
    (h : settings.excludes path = true) (elapsed : Float) (text : String)
    (before after : List (String × String)) :
    ofSources settings elapsed (before ++ (path, text) :: after) =
      ofSources settings elapsed (before ++ after) := by
  unfold ofSources included
  rw [List.filter_append, List.filter_append, List.filter_cons_of_neg (by simp [h])]

/-- The reports of the sources that are not left out, in the order of the sources. -/
def reports (settings : Settings) (sources : List (String × String)) : List FileReport :=
  (included settings sources).map fun source => .ofSource settings source.1 source.2

/-- A run collects its reports. -/
lemma ofSources_eq_collect (settings : Settings) (elapsed : Float)
    (sources : List (String × String)) :
    ofSources settings elapsed sources = collect elapsed (reports settings sources) := rfl

/-- A run lists the reports that it was made of. -/
@[simp]
lemma files_ofReports (elapsed : Float) (given : List FileReport) :
    (ofReports elapsed given).files = given := by
  rw [ofReports_eq]

/-- A run is made of the reports that it lists. -/
lemma collect_eq_ofReports (elapsed : Float) (given : List FileReport) :
    collect elapsed given = ofReports elapsed (collect elapsed given).files := by
  rw [collect, files_ofReports]

/-- The files of a run are the stable sort of its reports. -/
lemma isStableSort_files_collect (elapsed : Float) (given : List FileReport) :
    IsStableSort FileReport.file given (collect elapsed given).files := by
  rw [collect, files_ofReports]
  exact isStableSort_mergeSort FileReport.file given

/-- Reports that are in the order of their paths stay as they are. -/
lemma collect_of_pairwise {given : List FileReport}
    (h : given.Pairwise fun a b => textLe a.file.toList b.file.toList = true) (elapsed : Float) :
    collect elapsed given = ofReports elapsed given := by
  rw [collect, List.mergeSort_of_pairwise h]

/-- A run over sources is made of the reports that it lists. -/
lemma ofSources_eq_ofReports (settings : Settings) (elapsed : Float)
    (sources : List (String × String)) :
    ofSources settings elapsed sources =
      ofReports elapsed (ofSources settings elapsed sources).files :=
  collect_eq_ofReports elapsed (reports settings sources)

/-- Runs that list the same files are the same but for their duration. -/
lemma collect_eq_of_files_eq {elapsed : Float} {as bs : List FileReport}
    (h : (collect elapsed as).files = (collect elapsed bs).files) :
    collect elapsed as = collect elapsed bs := by
  rw [collect_eq_ofReports, h, ← collect_eq_ofReports]

/-- The reports of one path are those of the sources with this path. -/
lemma filter_reports (settings : Settings) (sources : List (String × String)) (path : String) :
    (reports settings sources).filter (·.file = path) =
      reports settings (sources.filter (·.1 = path)) := by
  unfold reports included
  rw [List.filter_map, List.filter_filter, List.filter_filter]
  congr 2
  funext source
  exact Bool.and_comm _ _

/-- **Mixing of sources.**  The outcome depends only on the sources of each path. -/
lemma ofSources_congr {as bs : List (String × String)}
    (h : ∀ path, as.filter (·.1 = path) = bs.filter (·.1 = path)) (settings : Settings)
    (elapsed : Float) : ofSources settings elapsed as = ofSources settings elapsed bs := by
  have has := isStableSort_files_collect elapsed (reports settings as)
  have hbs := isStableSort_files_collect elapsed (reports settings bs)
  rw [ofSources_eq_collect, ofSources_eq_collect]
  apply collect_eq_of_files_eq
  apply eq_of_pairwise_of_filter_eq has.ordered hbs.ordered
  intro path
  rw [has.stable, hbs.stable, filter_reports, filter_reports, h]

/-- **Files are analysed independently, and none is lost or made up.**  The files of a run are the
one stable sort, by path, of the analyses of the sources whose paths hold no excluded fragment.
Hence neither rearranging the sources, as long as those with equal paths keep their order, nor
adding an excluded source changes the outcome. -/
theorem files_ofSources_iff (settings : Settings) (elapsed : Float)
    (sources : List (String × String)) :
    (∀ files,
      files = (ofSources settings elapsed sources).files ↔
        IsStableSort FileReport.file
          ((sources.filter fun source =>
            ∀ fragment ∈ settings.patterns .excludedPaths,
              ¬ fragment.toList <:+: source.1.toList).map fun source =>
                FileReport.ofSource settings source.1 source.2) files) ∧
    (∀ rearranged, rearranged.Perm sources →
      (∀ path, rearranged.filter (·.1 = path) = sources.filter (·.1 = path)) →
        ofSources settings elapsed rearranged = ofSources settings elapsed sources) ∧
    (∀ before after path text, sources = before ++ after →
      (∃ fragment ∈ settings.patterns .excludedPaths, fragment.toList <:+: path.toList) →
        ofSources settings elapsed (before ++ (path, text) :: after) =
          ofSources settings elapsed sources) := by
  refine ⟨?_, ?_, ?_⟩
  · intro files
    rw [← included_eq_filter, isStableSort_iff, ofSources, collect, files_ofReports]
  · intro rearranged _ hpaths
    exact ofSources_congr hpaths settings elapsed
  · rintro before after path text rfl hfragment
    exact ofSources_insert_excluded ((settings.excludes_iff path).mpr hfragment) elapsed
      text before after

/-- Sources of which two have the same path. -/
def twinSources : List (String × String) := [("a.gd", "pass\npass"), ("a.gd", "pass"), ("b.gd", "")]

/-- The same sources in another order, and one that is excluded. -/
def mixedSources : List (String × String) :=
  [("b.gd", ""), ("a.gd", "pass\npass"), ("addons/c.gd", "pass"), ("a.gd", "pass")]

/-- In any of these orders, the longer one of two files with the same path comes first. -/
theorem files_ofSources_iff_mixed :
    (mixedSources.eraseIdx 2).Perm twinSources ∧
      (∀ path, (mixedSources.eraseIdx 2).filter (·.1 = path) = twinSources.filter (·.1 = path)) ∧
      (ofSources {} 0 mixedSources).files.map (fun file => (file.file, file.lineCount)) =
        [("a.gd", 2), ("a.gd", 1), ("b.gd", 0)] := by
  have hperm : (mixedSources.eraseIdx 2).Perm twinSources := by decide
  have hpaths : ∀ path,
      (mixedSources.eraseIdx 2).filter (·.1 = path) = twinSources.filter (·.1 = path) := by
    intro path
    by_cases ha : "a.gd" = path
    · subst ha
      decide
    · simp [mixedSources, twinSources, List.filter_cons, ha]
  refine ⟨hperm, hpaths, ?_⟩
  have hrearranged := (files_ofSources_iff {} 0 twinSources).2.1 _ hperm hpaths
  have hadded : ofSources {} 0 mixedSources = ofSources {} 0 (mixedSources.eraseIdx 2) :=
    (files_ofSources_iff {} 0 (mixedSources.eraseIdx 2)).2.2 (mixedSources.take 2)
      (mixedSources.drop 3) "addons/c.gd" "pass" rfl (by decide)
  have hsorted : ofSources {} 0 twinSources = ofReports 0 (reports {} twinSources) :=
    collect_of_pairwise (by decide +kernel) 0
  rw [hadded, hrearranged, hsorted]
  decide +kernel

end Run

end ScriptAudit
