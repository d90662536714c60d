import Mathlib.Data.List.Perm.Basic
import ScriptAudit.Proofs.PathOrder

/-!
# The order of delivery

A pool of workers delivers the reports of a run in the order in which they are done, and sorting
them by path is all that brings them back into order.  This restores every number of the run, but
not the order of reports with equal paths: a run does not depend on the order of delivery if and
only if sources with equal paths have equal reports.

## Main definitions

* `ScriptAudit.Run.Delivery` — an order in which a pool may deliver the reports of a run.
* `ScriptAudit.Run.SameTotals` — runs that agree in all but the order of their files.

## Main results

* `ScriptAudit.Run.sameTotals_collect` — no order of delivery changes a number of the run.
* `ScriptAudit.Run.collect_eq_ofSources_iff` — when the order of delivery does not matter at all.
* `ScriptAudit.Run.collect_twins_ne` — two sources with the same path whose order does matter.
-/

set_option relaxedAutoImplicit false
set_option autoImplicit false

namespace ScriptAudit.Run

/-- **Delivery.**  The reports of the sources that are not left out, in any order. -/
def Delivery (settings : Settings) (sources : List (String × String))
    (delivered : List FileReport) : Prop :=
  delivered.Perm (reports settings sources)

/-- Analysing the sources in another order is a delivery. -/
lemma delivery_of_perm {settings : Settings} {as bs : List (String × String)} (h : as.Perm bs) :
    Delivery settings bs (reports settings as) :=
  (h.filter _).map _

/-! ## Numbers -/

/-- Two runs agree in all but the order of their files. -/
structure SameTotals (a b : Run) : Prop where
  /-- They have the same paths in the same order. -/
  paths : a.files.map (·.file) = b.files.map (·.file)
  /-- They have the same files. -/
  files : a.files.Perm b.files
  /-- They report the same issues. -/
  issues : a.issues.Perm b.issues
  /-- They ignore the same issues. -/
  ignored : a.ignored.Perm b.ignored
  /-- They count the same files. -/
  fileCount : a.fileCount = b.fileCount
  /-- They count the same lines. -/
  lineCount : a.lineCount = b.lineCount
  /-- They have the same debt. -/
  debt : a.debt = b.debt
  /-- They count the same issues of each severity. -/
  count : a.count = b.count
  /-- They count the same issues of each check. -/
  countByCheck : a.countByCheck = b.countByCheck
  /-- They end with the same exit code. -/
  exitCode : a.exitCode = b.exitCode

/-- A sum over the files of a run does not depend on their order. -/
lemma foldr_add_eq_of_perm {as bs : List FileReport} (h : as.Perm bs) (f : FileReport → Int) :
    as.foldr (fun file n => f file + n) 0 = bs.foldr (fun file n => f file + n) 0 := by
  have hcomm : LeftCommutative fun file n => f file + n := ⟨fun a b n => by omega⟩
  exact h.foldr_eq 0

/-- Runs with the same files, in whatever order, agree in all numbers.

**Proof sketch.** The issues of the two runs are the same up to order, so they are equally many, of
each check and of each severity.  All other numbers are sums over the files, which do not depend on
their order. -/
lemma sameTotals_of_perm {as bs : List FileReport} (hfiles : as.Perm bs)
    (hpaths : as.map (·.file) = bs.map (·.file)) (s t : Float) :
    SameTotals (ofReports s as) (ofReports t bs) := by
  have hissues : (ofReports s as).issues.Perm (ofReports t bs).issues := by
    rw [ofReports_eq, ofReports_eq]
    exact hfiles.flatMap_right _
  have hcount : (ofReports s as).count = (ofReports t bs).count := by
    funext severity
    exact hissues.countP_eq _
  exact
    { paths := by rw [files_ofReports, files_ofReports, hpaths]
      files := by rwa [files_ofReports, files_ofReports]
      issues := hissues
      ignored := by
        rw [ofReports_eq, ofReports_eq]
        exact hfiles.flatMap_right _
      fileCount := by
        rw [ofReports_eq, ofReports_eq]
        exact hfiles.length_eq
      lineCount := by
        rw [ofReports_eq, ofReports_eq]
        exact foldr_add_eq_of_perm hfiles _
      debt := by
        rw [debt, debt, files_ofReports, files_ofReports]
        exact foldr_add_eq_of_perm hfiles _
      count := hcount
      countByCheck := by simp only [countByCheck, counts, hissues.countP_eq]
      exitCode := by simp only [exitCode, hcount] }

section Delivered

variable {settings : Settings} {sources : List (String × String)} {delivered : List FileReport}

/-- **Numbers do not depend on the order of delivery.**

**Proof sketch.** The files of both runs are the same up to order, and the paths of either are in
order, so the lists of paths are equal. -/
lemma sameTotals_collect (h : Delivery settings sources delivered) (elapsed : Float) :
    SameTotals (collect elapsed delivered) (ofSources settings elapsed sources) := by
  have hdelivered := isStableSort_files_collect elapsed delivered
  have hsources := isStableSort_files_collect elapsed (reports settings sources)
  have hfiles := (hdelivered.perm.trans h).trans hsources.perm.symm
  rw [ofSources_eq_ofReports, collect_eq_ofReports]
  apply sameTotals_of_perm hfiles
  -- the paths themselves are a list in order, of which there is only one
  apply (hfiles.map _).eq_of_pairwise (fun _ _ _ _ => le_antisymm)
  · exact List.pairwise_map.mpr hdelivered.ordered
  · exact List.pairwise_map.mpr hsources.ordered

/-! ## The whole outcome -/

/-- If no two reports with the same path differ, any order of delivery gives the same run.

**Proof sketch.** The files of both runs are the same up to order and sorted by path.  Where paths
are equal the reports are, so the two lists are equal. -/
lemma collect_eq_of_delivery (h : Delivery settings sources delivered)
    (htwins : ∀ a ∈ reports settings sources, ∀ b ∈ reports settings sources,
      a.file = b.file → a = b)
    (elapsed : Float) : collect elapsed delivered = ofSources settings elapsed sources := by
  have hdelivered := isStableSort_files_collect elapsed delivered
  have hsources := isStableSort_files_collect elapsed (reports settings sources)
  rw [ofSources_eq_collect]
  apply collect_eq_of_files_eq
  apply ((hdelivered.perm.trans h).trans hsources.perm.symm).eq_of_pairwise _ hdelivered.ordered
    hsources.ordered
  intro a b ha hb hab hba
  exact htwins a (h.subset (hdelivered.perm.subset ha)) b (hsources.perm.subset hb)
    (le_antisymm hab hba)

/-- A report that is delivered first comes before all others with its path. -/
lemma head?_filter_collect_cons (elapsed : Float) (report : FileReport) (rest : List FileReport) :
    ((collect elapsed (report :: rest)).files.filter (·.file = report.file)).head? =
      some report := by
  rw [(isStableSort_files_collect elapsed (report :: rest)).stable,
    List.filter_cons_of_pos (by simp)]
  rfl

/-- If any order of delivery gives the same run, no two reports with the same path differ.

**Proof sketch.** Either one of two such reports may be delivered first.  It then is the first one
of its path in the run, and there is only one run. -/
lemma eq_of_collect_eq
    (h : ∀ delivered, Delivery settings sources delivered →
      ∀ elapsed, collect elapsed delivered = ofSources settings elapsed sources)
    {a b : FileReport} (ha : a ∈ reports settings sources) (hb : b ∈ reports settings sources)
    (hfile : a.file = b.file) : a = b := by
  have hfirst : ∀ {report}, report ∈ reports settings sources →
      ((ofSources settings 0 sources).files.filter (·.file = report.file)).head? = some report := by
    intro report hreport
    rw [← h _ (List.perm_cons_erase hreport).symm 0]
    exact head?_filter_collect_cons 0 report _
  have hahead := hfirst ha
  rw [hfile, hfirst hb] at hahead
  exact (Option.some.inj hahead).symm

end Delivered

/-- **When the order of delivery does not matter.**  No order in which the reports are delivered
changes the files of a run, its numbers or its exit code, or the order of paths.  The whole outcome
is the one of analysing the sources in turn, for every order of delivery, if and only if sources
with the same path have the same report.

**Proof sketch.** If two reports with the same path differ, then delivering them in the other order
gives another run, by `eq_of_collect_eq`.  The converse is `collect_eq_of_delivery`. -/
theorem collect_eq_ofSources_iff (settings : Settings) (sources : List (String × String)) :
    (∀ delivered, Delivery settings sources delivered → ∀ elapsed,
      SameTotals (collect elapsed delivered) (ofSources settings elapsed sources)) ∧
    ((∀ delivered, Delivery settings sources delivered → ∀ elapsed,
        collect elapsed delivered = ofSources settings elapsed sources) ↔
      ∀ a ∈ included settings sources, ∀ b ∈ included settings sources, a.1 = b.1 →
        FileReport.ofSource settings a.1 a.2 = FileReport.ofSource settings b.1 b.2) := by
  refine ⟨fun delivered h elapsed => sameTotals_collect h elapsed, ?_, ?_⟩
  · intro h a ha b hb hpath
    exact eq_of_collect_eq h (List.mem_map_of_mem ha) (List.mem_map_of_mem hb) hpath
  · intro h delivered hdelivered elapsed
    apply collect_eq_of_delivery hdelivered
    intro a ha b hb hfile
    obtain ⟨source, hsource, rfl⟩ := List.mem_map.mp ha
    obtain ⟨other, hother, rfl⟩ := List.mem_map.mp hb
    exact h source hsource other hother hfile

/-- Eight empty scripts. -/
def emptySources : List (String × String) :=
  [("b.gd", ""), ("c.gd", ""), ("d.gd", ""), ("e.gd", ""), ("f.gd", ""), ("g.gd", ""), ("h.gd", ""),
    ("i.gd", "")]

/-- Ten scripts, of which two have the same path and an untyped variable on different lines. -/
def untypedTwins : List (String × String) :=
  ("a.gd", "var a") :: ("a.gd", "\nvar a") :: emptySources

/-- The same scripts, where the second one is done before the first one. -/
def untypedTwinsDone : List (String × String) :=
  ("a.gd", "\nvar a") :: ("a.gd", "var a") :: emptySources

/-- **The order of delivery may show.**  Two workers share these ten scripts.  If the second one is
done before the first one, the run reports the issues of the two in the other order than it does
without a pool. -/
theorem collect_twins_ne :
    usesPool (some 2) (included {} untypedTwins).length = true ∧
      Delivery {} untypedTwins (reports {} untypedTwinsDone) ∧
      (collect 0 (reports {} untypedTwinsDone)).issues.map (·.line) = [2, 1] ∧
      (ofSources {} 0 untypedTwins).issues.map (·.line) = [1, 2] := by
  have hdone : collect 0 (reports {} untypedTwinsDone) =
      ofReports 0 (reports {} untypedTwinsDone) :=
    collect_of_pairwise (by decide +kernel) 0
  have hsources : ofSources {} 0 untypedTwins = ofReports 0 (reports {} untypedTwins) :=
    collect_of_pairwise (by decide +kernel) 0
  refine ⟨by decide, delivery_of_perm (List.Perm.swap _ _ _), ?_, ?_⟩
  · rw [hdone]
    decide +kernel
  · rw [hsources]
    decide +kernel

end ScriptAudit.Run
