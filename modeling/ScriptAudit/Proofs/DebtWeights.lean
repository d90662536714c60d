import Mathlib.Algebra.BigOperators.Group.List.Basic
import Mathlib.Algebra.Ring.Int.Defs
import ScriptAudit.Proofs.Report

/-!
# Debt and issues

The debt of a script is computed from raw numbers, and the issues about limits come from checks of
their own.  Both look at the same limits: as long as these checks are switched on, the debt is the
sum of the weights of the issues, whether they are reported or suppressed.

## Main definitions

* `ScriptAudit.Debt.weightOf`, `ScriptAudit.Issue.weight` — what an issue adds to the debt.

## Main results

* `ScriptAudit.Debt.sum_weight_issuesOf` — the issues of a function weigh what its debt is.
* `ScriptAudit.FileReport.debt_eq_sum_weight` — the issues of a report weigh what its debt is.
-/

set_option relaxedAutoImplicit false
set_option autoImplicit false

namespace ScriptAudit

/-! ## Weights -/

namespace Debt

/-- The weight of an issue, by its check and its severity. -/
def weightOf (check : Check) (severity : Severity) : Int :=
  match check, severity with
  | .fileLength, .critical => 50
  | .fileLength, .warning => 20
  | .longFunction, .critical => 20
  | .longFunction, .warning => 10
  | .highComplexity, .critical => 25
  | .highComplexity, .warning => 10
  | .tooManyParams, _ => 5
  | .deepNesting, _ => 5
  | _, _ => 0

/-- The weight of a finding of a check; nothing if there is none. -/
def weightOf? (check : Check) (finding : Option Finding) : Int :=
  (finding.map fun finding => weightOf check finding.severity).getD 0

end Debt

/-- The weight of an issue. -/
def Issue.weight (issue : Issue) : Int := Debt.weightOf issue.check issue.severity

namespace Debt

/-- **Two limits.**  A finding whose severity tells which one of two limits is exceeded weighs as
much as exceeding that limit. -/
lemma weightOf?_of_excess {settings : Settings} {soft hard : Limit} {n : Int} {check : Check}
    {finding : Option Finding}
    (h : finding.map (·.severity) = (settings.excess? soft hard n).map (·.1)) :
    weightOf? check finding =
      weighPair settings soft hard n (weightOf check .critical) (weightOf check .warning) := by
  have hfinding : weightOf? check finding =
      ((finding.map (·.severity)).map (weightOf check)).getD 0 := by
    rw [weightOf?, Option.map_map]
    rfl
  rw [hfinding, h]
  unfold Settings.excess? weighPair
  split_ifs <;> rfl

/-- **One limit.**  A finding that is there if a limit is exceeded weighs as much as exceeding it,
whatever its severity. -/
lemma weightOf?_of_exceeds {settings : Settings} {limit : Limit} {n weight : Int} {check : Check}
    {finding : Finding} (h : weightOf check finding.severity = weight) :
    weightOf? check (if settings.exceeds limit n then some finding else none) =
      weigh settings limit n weight := by
  unfold Settings.exceeds weigh weightOf?
  by_cases hn : n > settings.limit limit
  · simp [hn, h]
  · simp [hn]

/-- The checks whose issues weigh something. -/
def weighed : List Check :=
  [.fileLength, .longFunction, .highComplexity, .tooManyParams, .deepNesting]

/-- The findings of all other checks weigh nothing. -/
lemma weightOf?_eq_zero {check : Check} (h : check ∉ weighed) (finding : Option Finding) :
    weightOf? check finding = 0 := by
  cases finding with
  | none => rfl
  | some finding => cases check <;> simp [weighed] at h <;> rfl

/-- If all checks that weigh something are switched on, a check that is switched off weighs
nothing. -/
lemma weightOf?_of_off {settings : Settings}
    (hon : ∀ check ∈ weighed, settings.enabled check = true)
    {check : Check} (hoff : settings.enabled check = false) (finding : Option Finding) :
    weightOf? check finding = 0 := by
  apply weightOf?_eq_zero
  intro hmem
  rw [hon check hmem] at hoff
  exact absurd hoff (by decide)

/-! ## Sums of weights -/

/-- The weights of some issues together. -/
def sumWeight (issues : List Issue) : Int := (issues.map Issue.weight).sum

/-- Weights add up. -/
lemma sumWeight_append (as bs : List Issue) :
    sumWeight (as ++ bs) = sumWeight as + sumWeight bs := by
  rw [sumWeight, List.map_append, List.sum_append]
  rfl

/-- The weights of issues that are collected from several places add up. -/
lemma sumWeight_flatMap {α : Type} (f : α → List Issue) (xs : List α) :
    sumWeight (xs.flatMap f) = (xs.map fun x => sumWeight (f x)).sum := by
  induction xs with
  | nil => rfl
  | cons x rest ih => rw [List.flatMap_cons, sumWeight_append, ih, List.map_cons, List.sum_cons]

/-- Parting issues does not change their weight. -/
lemma sumWeight_part (index : Suppression) (issues : List Issue) :
    sumWeight ((FileReport.part index issues).1 ++ (FileReport.part index issues).2) =
      sumWeight issues := by
  unfold FileReport.part
  rw [List.partition_eq_filter_filter]
  exact ((List.filter_append_perm _ issues).map Issue.weight).sum_eq

/-- An issue weighs what its finding does, unless the check is switched off. -/
lemma sumWeight_issueOf {settings : Settings} {check : Check} {finding : Option Finding}
    (h : settings.enabled check = false → weightOf? check finding = 0) (file : String)
    (line : Int) :
    sumWeight (issueOf settings file line check finding).toList = weightOf? check finding := by
  unfold issueOf
  cases henabled : settings.enabled check with
  | false => exact (h henabled).symm
  | true =>
    cases finding with
    | none => rfl
    | some finding => exact add_zero (weightOf check finding.severity)

/-- The issues of several checks weigh what their findings do. -/
lemma sumWeight_filterMap {α : Type} {settings : Settings} {check : α → Check}
    {judge : α → Option Finding} {checks : List α}
    (h : ∀ a ∈ checks, settings.enabled (check a) = false → weightOf? (check a) (judge a) = 0)
    (file : String) (line : Int) :
    sumWeight (checks.filterMap fun a => issueOf settings file line (check a) (judge a)) =
      (checks.map fun a => weightOf? (check a) (judge a)).sum := by
  rw [List.filterMap_eq_flatMap_toList, sumWeight_flatMap]
  congr 1
  exact List.map_congr_left fun a ha => sumWeight_issueOf (h a ha) file line

/-! ## The issues of a script -/

section Scans

variable {settings : Settings} (hon : ∀ check ∈ weighed, settings.enabled check = true)
  (file : String)

include hon

/-- **The issues of a function** weigh what its debt is.

**Proof sketch.** Each of the four weighted checks weighs what its part of the debt is, in two steps
for those with two limits.  The remaining two have no weight, and neither has a check that is
off. -/
lemma sumWeight_issuesOf (metrics : Metrics) :
    sumWeight (FunctionScan.issuesOf settings file FunctionCheck.all metrics) =
      ofFunction settings metrics := by
  have hlength : weightOf? .longFunction (FunctionCheck.judgeLength settings metrics) =
      weighPair settings .functionLong .functionCritical metrics.lineCount 20 10 :=
    weightOf?_of_excess (by rw [FunctionCheck.judgeLength, Option.map_map]; rfl)
  have hcomplexity : weightOf? .highComplexity (FunctionCheck.judgeComplexity settings metrics) =
      weighPair settings .complexityWarning .complexityCritical metrics.complexity 25 10 :=
    weightOf?_of_excess (by rw [FunctionCheck.judgeComplexity, Option.map_map]; rfl)
  have hparameters : weightOf? .tooManyParams (FunctionCheck.judgeParameters settings metrics) =
      weigh settings .parameters metrics.parameterCount 5 := weightOf?_of_exceeds rfl
  have hnesting : weightOf? .deepNesting (FunctionCheck.judgeNesting settings metrics) =
      weigh settings .nesting metrics.nesting 5 := weightOf?_of_exceeds rfl
  unfold FunctionScan.issuesOf
  rw [sumWeight_filterMap (fun check _ hoff => weightOf?_of_off hon hoff _)]
  simp only [FunctionCheck.all, List.map_cons, List.map_nil, List.sum_cons, List.sum_nil,
    FunctionCheck.check, FunctionCheck.judge, hlength, hcomplexity, hparameters, hnesting]
  rw [@weightOf?_eq_zero .emptyFunction (by decide),
    @weightOf?_eq_zero .missingReturnType (by decide), ofFunction]
  omega

/-- The issues of the functions of a script weigh what the debt of the functions is. -/
lemma sumWeight_functionScan (script : List (List Char)) :
    sumWeight (FunctionScan.run settings file FunctionCheck.all script).issues =
      ofFunctions settings (FunctionScan.run settings file FunctionCheck.all script).functions := by
  unfold FunctionScan.run
  rw [sumWeight_flatMap]
  simp only [sumWeight_issuesOf hon file]
  rw [ofFunctions, List.sum_eq_foldr, List.foldr_map]

/-- The issues of the lines of a script weigh what the debt of its length is.

**Proof sketch.** Checks on single lines have no weight, so only the issue about the number of lines
counts. -/
lemma sumWeight_lineScan (checks : List LineCheck) (script : List (List Char)) :
    sumWeight (LineScan.run settings file checks script).issues =
      ofFile settings script.length := by
  have hlength : weightOf? .fileLength (FileCheck.judgeLength settings script.length) =
      ofFile settings script.length :=
    weightOf?_of_excess (by rw [FileCheck.judgeLength, Option.map_map]; rfl)
  have hlines : ∀ line, sumWeight (LineScan.issuesOn settings file checks line) = 0 := by
    intro line
    unfold LineScan.issuesOn
    rw [sumWeight_filterMap (fun check _ hoff => weightOf?_of_off hon hoff _)]
    apply List.sum_eq_zero
    rintro weight hweight
    obtain ⟨check, -, rfl⟩ := List.mem_map.mp hweight
    exact weightOf?_eq_zero (by cases check <;> decide) _
  unfold LineScan.run LineScan.issuesIn
  rw [sumWeight_append, sumWeight_issueOf (fun hoff => weightOf?_of_off hon hoff _), hlength,
    sumWeight_flatMap]
  simp [hlines]

/-- The issue of the class as a whole weighs nothing. -/
lemma sumWeight_classScan (functions : List Metrics) (signals : List String) :
    sumWeight (ClassScan.run settings file functions signals).issues = 0 := by
  unfold ClassScan.run
  rw [sumWeight_issueOf (fun hoff => weightOf?_of_off hon hoff _)]
  exact weightOf?_eq_zero (by decide) _

/-- **The candidates of a script** weigh what its debt is. -/
lemma sumWeight_candidates (script : List (List Char)) :
    sumWeight (FileReport.candidates settings {} file script) =
      total settings script.length
        (FunctionScan.run settings file FunctionCheck.all script).functions := by
  unfold FileReport.candidates
  rw [sumWeight_append, sumWeight_append, sumWeight_lineScan hon file,
    sumWeight_functionScan hon file, sumWeight_classScan hon file, add_zero, total]

end Scans

end Debt

/-- **Debt and issues agree.**  If the checks that weigh something are switched on, whatever the
limits are, the debt of a file is the sum of the weights of all its issues, the reported and the
ignored ones. -/
theorem FileReport.debt_eq_sum_weight {settings : Settings}
    (hon : ∀ check ∈ Debt.weighed, settings.enabled check = true) (file source : String) :
    (ofSource settings file source).debt =
      (((ofSource settings file source).issues ++ (ofSource settings file source).ignored).map
        Issue.weight).sum := by
  have hpart := Debt.sumWeight_part (Suppression.ofLines (Script.lines source.toList))
    (candidates settings {} file (Script.lines source.toList))
  rw [Debt.sumWeight_candidates hon] at hpart
  exact hpart.symm

/-- Settings whose limits on lines stand the wrong way round. -/
def invertedLimits : Settings where
  limit
    | .fileSoft => 9
    | .fileHard => 3
    | .functionLong => 5
    | .functionCritical => 1
    | .complexityWarning => -1
    | .complexityCritical => 7
    | _ => 0

/-- A script that exceeds all limits of `invertedLimits` but one and suppresses two of its
issues. -/
def sourceInDebt : String :=
  "# qube:ignore-function:too-many-params,deep-nesting\nfunc a(x):\n\tif x:\n\t\tpass\n"

/-- The debt of such a script counts its suppressed issues. -/
theorem FileReport.debt_eq_sum_weight_inverted :
    (∀ check ∈ Debt.weighed, invertedLimits.enabled check = true) ∧
      (((ofSource invertedLimits "a.gd" sourceInDebt).issues ++
        (ofSource invertedLimits "a.gd" sourceInDebt).ignored).map Issue.weight).sum = 90 ∧
      ((ofSource invertedLimits "a.gd" sourceInDebt).ignored.map Issue.weight).sum = 10 := by
  refine ⟨fun _ _ => rfl, ?_⟩
  rw [← debt_eq_sum_weight (fun _ _ => rfl)]
  decide +kernel

end ScriptAudit
