import Mathlib.Algebra.Order.Ring.Int
import Mathlib.Data.List.Perm.Basic
import Mathlib.Tactic.Common
import ScriptAudit.Proofs.FunctionRanges
import ScriptAudit.Proofs.Suppressed

/-!
# Places of issues

Every issue of a report stands on a line of its file, where its check belongs: that of a whole file
on the first line, that of a function on the line that declares it.  A check has at most one issue
on a line, and its issues come in the order of the lines.

All of this is so before directives are taken into account.  One relation between two issues carries
order and uniqueness at once: of two issues of the same check, the earlier one stands on the earlier
line.  It is kept by taking issues out, and it leaves no room for two issues of a check on one line.

## Main definitions

* `ScriptAudit.Issue.WellPlaced` — an issue stands where it belongs.
* `ScriptAudit.FileReport.WellPlaced` — so do all issues of a report, in order and without
  repetition.
* `ScriptAudit.Issue.Precedes` — two issues of the same check stand on increasing lines.

## Main results

* `ScriptAudit.FileReport.origin_of_mem_candidates` — an issue comes from the file as a whole, from
  a line or from a function.
* `ScriptAudit.FileReport.pairwise_precedes_candidates` — the candidates of a script are in order.
* `ScriptAudit.FileReport.wellPlaced_ofSource` — the issues of every report are well placed.
-/

set_option relaxedAutoImplicit false
set_option autoImplicit false

namespace ScriptAudit

open Script Suppression

/-! ## What it means to be well placed -/

/-- **An issue in its place.**  It names its file and comes from a check that is switched on, its
line is one of the file, or the first one of an empty file, and issues of a whole file or of a
function stand where the file or the function begins. -/
structure Issue.WellPlaced (settings : Settings) (file : String) (script : List (List Char))
    (report : FileReport) (issue : Issue) : Prop where
  file_eq : issue.file = file
  enabled : settings.enabled issue.check = true
  one_le_line : 1 ≤ issue.line
  line_le : issue.line ≤ max 1 report.lineCount
  line_eq_one : issue.check = .fileLength ∨ issue.check = .godClass → issue.line = 1
  starts : ∀ check : FunctionCheck, issue.check = check.check →
    ∃ metrics ∈ report.functions, metrics.startLine = issue.line
  declares : ∀ check : FunctionCheck, issue.check = check.check → Declares script issue.line

/-- **A report with its issues in their places.**  Reported or ignored, they are well placed, and no
two of them share line and check; the reported issues of a check stand on increasing lines, and so
do the ignored ones. -/
structure FileReport.WellPlaced (settings : Settings) (file : String) (script : List (List Char))
    (report : FileReport) : Prop where
  placed : ∀ issue ∈ report.issues ++ report.ignored, issue.WellPlaced settings file script report
  nodup : ((report.issues ++ report.ignored).map fun issue => (issue.line, issue.check)).Nodup
  issues_increase : ∀ check,
    (report.issues.filter (·.check == check)).Pairwise (·.line < ·.line)
  ignored_increase : ∀ check,
    (report.ignored.filter (·.check == check)).Pairwise (·.line < ·.line)

/-! ## Issues of one check -/

/-- The stage of an analysis in which a check runs: on the number of lines, on each line, on each
function, on the class. -/
def Check.stage : Check → Nat
  | .fileLength => 0
  | .longLine | .todoComment | .printStatement | .magicNumber | .commentedCode | .missingTypeHint
  | .namingConvention => 1
  | .longFunction | .highComplexity | .tooManyParams | .deepNesting | .emptyFunction
  | .missingReturnType => 2
  | .godClass => 3

/-- Checks of lines run in the second stage. -/
lemma LineCheck.stage_check (a : LineCheck) : a.check.stage = 1 := by cases a <;> rfl

/-- Checks of functions run in the third stage. -/
lemma FunctionCheck.stage_check (a : FunctionCheck) : a.check.stage = 2 := by cases a <;> rfl

/-- Checks of a whole file run in the first stage or in the last. -/
lemma stage_of_whole {check : Check} (h : check = .fileLength ∨ check = .godClass) :
    check.stage = 0 ∨ check.stage = 3 := by
  rcases h with rfl | rfl <;> simp [Check.stage]

/-- Different checks of lines are different checks. -/
lemma LineCheck.check_injective : Function.Injective LineCheck.check := by
  intro a b
  cases a <;> cases b <;> simp [LineCheck.check]

/-- Different checks of functions are different checks. -/
lemma FunctionCheck.check_injective : Function.Injective FunctionCheck.check := by
  intro a b
  cases a <;> cases b <;> simp [FunctionCheck.check]

/-- If two issues are of the same check, the first one stands on an earlier line. -/
def Issue.Precedes (a b : Issue) : Prop := a.check = b.check → a.line < b.line

section Precedes

variable {issues : List Issue}

/-- Issues in order leave no room for two of a check on one line. -/
lemma nodup_of_pairwise_precedes (h : issues.Pairwise Issue.Precedes) :
    (issues.map fun issue => (issue.line, issue.check)).Nodup := by
  rw [List.Nodup, List.pairwise_map]
  refine h.imp fun {a b} hab heq => ?_
  obtain ⟨hline, hcheck⟩ := Prod.mk.inj heq
  have hlt := hab hcheck
  omega

/-- Of issues in order, those of one check stand on increasing lines. -/
lemma pairwise_lt_filter_of_precedes (h : issues.Pairwise Issue.Precedes) (check : Check) :
    (issues.filter (·.check == check)).Pairwise (·.line < ·.line) := by
  refine (h.filter _).imp_of_mem fun {a b} ha hb hab => ?_
  have hacheck : a.check = check := by simpa using (List.mem_filter.mp ha).2
  have hbcheck : b.check = check := by simpa using (List.mem_filter.mp hb).2
  exact hab (hacheck.trans hbcheck.symm)

/-- Issues in order, all from stages before some stage. -/
structure Staged (n : Nat) (issues : List Issue) : Prop where
  precedes : issues.Pairwise Issue.Precedes
  stage_lt : ∀ issue ∈ issues, issue.check.stage < n

/-- Before the first stage there are no issues. -/
lemma Staged.nil : Staged 0 [] := ⟨.nil, fun _ h => absurd h List.not_mem_nil⟩

/-- The issues of the next stage come behind those of the stages before it.

**Proof sketch.** Issues of different stages come from different checks, so nothing has to be shown
between the two lists. -/
lemma Staged.append {n : Nat} {others : List Issue} (h : Staged n issues)
    (hothers : others.Pairwise Issue.Precedes) (hstage : ∀ issue ∈ others, issue.check.stage = n) :
    Staged (n + 1) (issues ++ others) where
  precedes := by
    refine List.pairwise_append.mpr ⟨h.precedes, hothers, fun a ha b hb heq => ?_⟩
    have hlt := h.stage_lt a ha
    rw [heq, hstage b hb] at hlt
    omega
  stage_lt := by
    intro issue hissue
    rcases List.mem_append.mp hissue with hissue | hissue
    · have hlt := h.stage_lt issue hissue
      omega
    · rw [hstage issue hissue]
      omega

end Precedes

/-! ## The issues of a scan -/

/-- An issue is one of the file, the line and the check that it was made for, and the check is
switched on. -/
lemma of_issueOf_eq_some {settings : Settings} {file : String} {line : Int} {check : Check}
    {finding : Option Finding} {issue : Issue}
    (h : issueOf settings file line check finding = some issue) :
    issue.file = file ∧ issue.line = line ∧ issue.check = check ∧
      settings.enabled check = true := by
  unfold issueOf at h
  split at h
  · next henabled =>
    obtain ⟨finding, -, rfl⟩ := Option.map_eq_some_iff.mp h
    exact ⟨rfl, rfl, rfl, henabled⟩
  · simp at h

/-- An issue belongs to the stage of its check. -/
lemma stage_of_mem_toList {settings : Settings} {file : String} {line : Int} {check : Check}
    {finding : Option Finding} :
    ∀ issue ∈ (issueOf settings file line check finding).toList,
      issue.check.stage = check.stage := by
  intro issue h
  obtain ⟨-, -, hcheck, -⟩ := of_issueOf_eq_some (Option.mem_toList.mp h)
  rw [hcheck]

section Scan

-- lines and functions are scanned alike: every place is put to every check
variable {Place Kind : Type} {settings : Settings} {file : String} {places : List Place}
  {checks : List Kind} {number : Place → Int} {check : Kind → Check}
  {judge : Place → Kind → Option Finding}

/-- An issue of a scan comes from one of its places and one of its checks. -/
lemma exists_of_mem_scan {issue : Issue}
    (h : issue ∈ places.flatMap fun place => checks.filterMap fun kind =>
      issueOf settings file (number place) (check kind) (judge place kind)) :
    ∃ place ∈ places, ∃ kind : Kind, issue.file = file ∧ issue.line = number place ∧
      issue.check = check kind ∧ settings.enabled issue.check = true := by
  obtain ⟨place, hplace, hissue⟩ := List.mem_flatMap.mp h
  obtain ⟨kind, -, hkind⟩ := List.mem_filterMap.mp hissue
  obtain ⟨hfile, hline, hcheck, henabled⟩ := of_issueOf_eq_some hkind
  exact ⟨place, hplace, kind, hfile, hline, hcheck, by rw [hcheck, henabled]⟩

/-- The issues of a scan belong to the stage of its checks. -/
lemma stage_of_mem_scan {n : Nat} (hstage : ∀ kind, (check kind).stage = n) :
    ∀ issue ∈ places.flatMap fun place => checks.filterMap fun kind =>
      issueOf settings file (number place) (check kind) (judge place kind),
        issue.check.stage = n := by
  intro issue h
  obtain ⟨-, -, kind, -, -, hcheck, -⟩ := exists_of_mem_scan h
  rw [hcheck, hstage]

/-- **The issues of a scan are in order**, if its places are and no check runs twice.

**Proof sketch.** Two issues of the same place come from different checks.  Of two issues from
different places, the earlier one has the smaller number. -/
lemma pairwise_precedes_scan (hplaces : places.Pairwise fun a b => number a < number b)
    (hchecks : checks.Nodup) (hinjective : Function.Injective check) :
    (places.flatMap fun place => checks.filterMap fun kind =>
      issueOf settings file (number place) (check kind) (judge place kind)).Pairwise
        Issue.Precedes := by
  rw [List.pairwise_flatMap]
  constructor
  · -- on one place, different checks
    intro place _
    rw [List.pairwise_filterMap]
    refine hchecks.imp fun {kind other} hne a ha b hb heq => ?_
    obtain ⟨-, -, hacheck, -⟩ := of_issueOf_eq_some ha
    obtain ⟨-, -, hbcheck, -⟩ := of_issueOf_eq_some hb
    rw [hacheck, hbcheck] at heq
    exact absurd (hinjective heq) hne
  · -- on two places, increasing numbers
    refine hplaces.imp fun {place other} hlt a ha b hb _ => ?_
    obtain ⟨kind, -, hkind⟩ := List.mem_filterMap.mp ha
    obtain ⟨kind', -, hkind'⟩ := List.mem_filterMap.mp hb
    obtain ⟨-, haline, -, -⟩ := of_issueOf_eq_some hkind
    obtain ⟨-, hbline, -, -⟩ := of_issueOf_eq_some hkind'
    rw [haline, hbline]
    exact hlt

end Scan

/-! ## Lines and functions -/

/-- The lines of a script are numbered from one to their number. -/
lemma bounds_of_mem_numbered {script : List (List Char)} {line : Line}
    (h : line ∈ numbered 1 script) : 1 ≤ line.number ∧ line.number ≤ script.length := by
  obtain ⟨i, hraw, hnumber⟩ := (mem_numbered_iff 1 script line).mp h
  obtain ⟨hlt, -⟩ := List.getElem?_eq_some_iff.mp hraw
  omega

/-- A function is declared on a line of the script. -/
lemma Suppression.Declares.bounds {script : List (List Char)} {m : Int} (h : Declares script m) :
    1 ≤ m ∧ m ≤ script.length := by
  obtain ⟨i, raw, hraw, -, rfl⟩ := h
  obtain ⟨hlt, -⟩ := List.getElem?_eq_some_iff.mp hraw
  omega

namespace FunctionScan

variable (settings : Settings) (file : String) (checks : List FunctionCheck)
  (script : List (List Char))

/-- The functions of a scan begin where functions are declared. -/
lemma map_startLine_functions :
    (run settings file checks script).functions.map (·.startLine) =
      declarationLines (numbered 1 script) := by
  rw [← map_startLine_divide]
  exact List.map_map

/-- Functions begin on increasing lines. -/
lemma pairwise_startLine_functions :
    (run settings file checks script).functions.Pairwise fun a b => a.startLine < b.startLine := by
  rw [← List.pairwise_map, map_startLine_functions]
  exact pairwise_declarationLines 1 script

/-- A function begins on the line that declares it. -/
lemma declares_startLine {metrics : Metrics}
    (h : metrics ∈ (run settings file checks script).functions) :
    Declares script metrics.startLine := by
  rw [← mem_declarationLines_one_iff, ← map_startLine_functions settings file checks]
  exact List.mem_map_of_mem h

end FunctionScan

/-! ## The candidates of a script -/

/-- **Where an issue comes from**: the file as a whole, one line, or one function. -/
inductive Issue.Origin (script : List (List Char)) (functions : List Metrics) (issue : Issue) :
    Prop where
  | whole (hcheck : issue.check = .fileLength ∨ issue.check = .godClass) (hline : issue.line = 1)
  | line (line : Line) (hmem : line ∈ numbered 1 script) (check : LineCheck)
      (hcheck : issue.check = check.check) (hline : issue.line = line.number)
  | function (metrics : Metrics) (hmem : metrics ∈ functions) (check : FunctionCheck)
      (hcheck : issue.check = check.check) (hline : issue.line = metrics.startLine)

namespace FileReport

section Candidates

variable {settings : Settings} {selection : Selection} {file : String} {script : List (List Char)}

/-- **Every candidate has an origin**, is one of the file, and comes from a check that is switched
on.

**Proof sketch.** Candidates are put together from four lists, and each list has its own origin. -/
lemma origin_of_mem_candidates {issue : Issue}
    (h : issue ∈ candidates settings selection file script) :
    issue.Origin script (FunctionScan.run settings file selection.function script).functions ∧
      issue.file = file ∧ settings.enabled issue.check = true := by
  unfold candidates at h
  rcases List.mem_append.mp h with h | h
  · rcases List.mem_append.mp h with h | h
    · rcases List.mem_append.mp h with h | h
      · obtain ⟨hfile, hline, hcheck, henabled⟩ := of_issueOf_eq_some (Option.mem_toList.mp h)
        exact ⟨.whole (.inl hcheck) hline, hfile, by rw [hcheck, henabled]⟩
      · obtain ⟨line, hmem, check, hfile, hline, hcheck, henabled⟩ := exists_of_mem_scan h
        exact ⟨.line line hmem check hcheck hline, hfile, henabled⟩
    · obtain ⟨metrics, hmem, check, hfile, hline, hcheck, henabled⟩ := exists_of_mem_scan h
      exact ⟨.function metrics hmem check hcheck hline, hfile, henabled⟩
  · obtain ⟨hfile, hline, hcheck, henabled⟩ := of_issueOf_eq_some (Option.mem_toList.mp h)
    exact ⟨.whole (.inr hcheck) hline, hfile, by rw [hcheck, henabled]⟩

/-- **Candidates are well placed**, whatever index their report is parted by.

**Proof sketch.** By the origin.  The stage of its check tells an issue of the whole file, of a line
and of a function apart, so only one of the conditions on where it stands applies.  Lines and
declarations are within the script. -/
lemma wellPlaced_of_mem_candidates {issue : Issue}
    (h : issue ∈ candidates settings selection file script) (index : Suppression) :
    issue.WellPlaced settings file script (ofIndex settings selection file script index) := by
  obtain ⟨horigin, hfile, henabled⟩ := origin_of_mem_candidates h
  have hcount : (ofIndex settings selection file script index).lineCount = script.length := rfl
  -- the check of an issue tells its origin, so an issue of one origin need not stand where another
  -- would
  cases horigin with
  | whole hcheck hline =>
    have hstage := stage_of_whole hcheck
    refine ⟨hfile, henabled, by omega, by omega, fun _ => hline, ?_, ?_⟩
    all_goals
      intro check hfunction
      rw [hfunction, check.stage_check] at hstage
      omega
  | line line hmem lineCheck hcheck hline =>
    have hstage := lineCheck.stage_check
    have hbounds := bounds_of_mem_numbered hmem
    rw [← hcheck] at hstage
    refine ⟨hfile, henabled, by omega, by omega, ?_, ?_, ?_⟩
    · intro hwhole
      have hstages := stage_of_whole hwhole
      omega
    all_goals
      intro check hfunction
      rw [hfunction, check.stage_check] at hstage
      omega
  | function metrics hmem functionCheck hcheck hline =>
    have hstage := functionCheck.stage_check
    have hdeclares := FunctionScan.declares_startLine settings file selection.function script hmem
    have hbounds := hdeclares.bounds
    rw [← hcheck] at hstage
    refine ⟨hfile, henabled, by omega, by omega, ?_, fun _ _ => ⟨metrics, hmem, hline.symm⟩, ?_⟩
    · intro hwhole
      have hstages := stage_of_whole hwhole
      omega
    · rw [hline]
      exact fun _ _ => hdeclares

/-- **Candidates are in order**, if no check runs twice.

**Proof sketch.** The candidates are four lists, one behind the other.  Each list is in order by
itself, and its checks are all of one stage, which is a later one for each list. -/
lemma pairwise_precedes_candidates (hlines : selection.line.Nodup)
    (hfunctions : selection.function.Nodup) :
    (candidates settings selection file script).Pairwise Issue.Precedes := by
  unfold candidates
  refine Staged.precedes
    (.append (.append (.append (.append .nil ?length ?_) ?lines ?_) ?functions ?_) ?whole ?_)
  case length => exact Option.pairwise_toList
  case lines =>
    exact pairwise_precedes_scan (pairwise_numbered 1 script) hlines LineCheck.check_injective
  case functions =>
    exact pairwise_precedes_scan (FunctionScan.pairwise_startLine_functions settings file
      selection.function script) hfunctions FunctionCheck.check_injective
  case whole => exact Option.pairwise_toList
  -- each list is of one stage
  · exact stage_of_mem_toList
  · exact stage_of_mem_scan LineCheck.stage_check
  · exact stage_of_mem_scan FunctionCheck.stage_check
  · exact stage_of_mem_toList

end Candidates

/-! ## Reports -/

/-- **The issues of a report are in their places** under every index, if no check runs twice.

**Proof sketch.** The issues of a report are candidates, each well placed; and parting them keeps
their order in both lists. -/
lemma wellPlaced_ofIndex (settings : Settings) {selection : Selection} (file : String)
    (script : List (List Char)) (index : Suppression) (hlines : selection.line.Nodup)
    (hfunctions : selection.function.Nodup) :
    (ofIndex settings selection file script index).WellPlaced settings file script := by
  have hparts := Parts.of_part index (candidates settings selection file script)
  have horder : (candidates settings selection file script).Pairwise Issue.Precedes :=
    pairwise_precedes_candidates hlines hfunctions
  exact
    { placed := fun issue hissue => wellPlaced_of_mem_candidates (hparts.perm.subset hissue) index
      nodup := (hparts.perm.map _).nodup_iff.mpr (nodup_of_pairwise_precedes horder)
      issues_increase := pairwise_lt_filter_of_precedes (horder.sublist hparts.accepted_sublist)
      ignored_increase := pairwise_lt_filter_of_precedes (horder.sublist hparts.ignored_sublist) }

/-- **Every issue is well placed and unique.**  In the report on any text, each issue, whether
reported or ignored, is one of the file and of a check that is switched on, and stands on a line of
the file: issues of the whole file on the first line, issues of a function where a function of the
report is declared.  No two issues share line and check, and the reported issues of a check, like
the ignored ones, stand on increasing lines. -/
theorem wellPlaced_ofSource (settings : Settings) (file source : String) :
    (ofSource settings file source).WellPlaced settings file (lines source.toList) :=
  wellPlaced_ofIndex settings file (lines source.toList) _ (by decide) (by decide)

-- below zero the limits are exceeded by a file without lines, whose issues stand on line one all
-- the same
example :
    (ofSource { limit := fun _ => -1 } "a.gd" "").issues.map (fun issue =>
      (issue.line, issue.check)) = [(1, .fileLength), (1, .godClass)] := by
  decide +kernel

end FileReport

end ScriptAudit
