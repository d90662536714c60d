import ScriptAudit.Proofs.Report

/-!
# Suppressed issues

A suppression index decides on which side of a report an issue stands and does nothing else.  This
is so for every index, not only for the one that the directives of the script give: the candidate
issues are dealt out to two lists, and the rest of the report does not look at the index.

## Main definitions

* `ScriptAudit.Suppression.Parts` — two lists are what an index makes of some issues.

## Main results

* `ScriptAudit.Suppression.Parts.iff_eq_part` — there is exactly one way to part issues.
* `ScriptAudit.FileReport.ofIndex_parts_candidates` — the two lists of a report part its candidates,
  parting once more changes nothing, and the other fields do not depend on the index.
-/

set_option relaxedAutoImplicit false
set_option autoImplicit false

namespace ScriptAudit

namespace Suppression

/-- **Parting of issues.**  Each one of the given issues stands in exactly one of two lists, as
often as among the given issues and in the same order, and it is ignored if and only if the index
hides it. -/
structure Parts (index : Suppression) (issues accepted ignored : List Issue) : Prop where
  /-- No issue is lost, doubled or made up. -/
  perm : (accepted ++ ignored).Perm issues
  /-- The accepted issues keep their order. -/
  accepted_sublist : accepted.Sublist issues
  /-- The ignored issues keep their order. -/
  ignored_sublist : ignored.Sublist issues
  /-- The accepted issues are those that the index does not hide. -/
  mem_accepted_iff : ∀ issue ∈ issues,
    issue ∈ accepted ↔ index.hides issue.line issue.check.id = false
  /-- The ignored issues are those that the index hides. -/
  mem_ignored_iff : ∀ issue ∈ issues,
    issue ∈ ignored ↔ index.hides issue.line issue.check.id = true

namespace Parts

variable {index : Suppression} {issues accepted ignored : List Issue}

/-- An accepted issue is not hidden. -/
lemma not_hides_of_mem (h : index.Parts issues accepted ignored) {issue : Issue}
    (hmem : issue ∈ accepted) : index.hides issue.line issue.check.id = false :=
  (h.mem_accepted_iff issue (h.accepted_sublist.subset hmem)).mp hmem

/-- An ignored issue is hidden. -/
lemma hides_of_mem (h : index.Parts issues accepted ignored) {issue : Issue}
    (hmem : issue ∈ ignored) : index.hides issue.line issue.check.id = true :=
  (h.mem_ignored_iff issue (h.ignored_sublist.subset hmem)).mp hmem

/-- A sublist that holds all entries of one kind, and nothing else, is the list filtered by it.

**Proof sketch.** Filtering the two parts together leaves the first one as it is and nothing of the
second.  So the first part is as long as the filtered list, and it is a sublist of it. -/
lemma eq_filter_of_perm {part rest : List Issue} {p : Issue → Bool}
    (hperm : (part ++ rest).Perm issues) (hsub : part.Sublist issues)
    (hpart : ∀ issue ∈ part, p issue = true) (hrest : ∀ issue ∈ rest, p issue = false) :
    part = issues.filter p := by
  have hkeep : part.filter p = part := List.filter_eq_self.mpr hpart
  have hdrop : rest.filter p = [] := by
    rw [List.filter_eq_nil_iff]
    intro issue hissue
    rw [hrest issue hissue]
    exact Bool.false_ne_true
  have hlength : part.length = (issues.filter p).length := by
    have hfilter := (hperm.filter p).length_eq
    rw [List.filter_append, hkeep, hdrop, List.append_nil] at hfilter
    exact hfilter
  apply List.Sublist.eq_of_length _ hlength
  rw [← hkeep]
  exact hsub.filter p

/-- The two lists of a report part the issues that went into them. -/
lemma of_part (index : Suppression) (issues : List Issue) :
    index.Parts issues (FileReport.part index issues).1 (FileReport.part index issues).2 := by
  rw [FileReport.part_eq_filter]
  refine ⟨?_, List.filter_sublist, List.filter_sublist, ?_, ?_⟩
  · have hperm := List.filter_append_perm
      (fun issue : Issue => !index.hides issue.line issue.check.id) issues
    simpa only [Bool.not_not] using hperm
  · intro issue hissue
    simp [hissue]
  · intro issue hissue
    simp [hissue]

/-- **Parting is unique.**  The two lists are determined by the index and the issues.

**Proof sketch.** Both lists are sublists, and each one holds all issues of its kind, because the
other one holds none of them; a sublist that is as long as the filtered list is the filtered
list. -/
lemma iff_eq_part :
    index.Parts issues accepted ignored ↔
      accepted = (FileReport.part index issues).1 ∧ ignored = (FileReport.part index issues).2 := by
  constructor
  · intro h
    rw [FileReport.part_eq_filter]
    constructor
    · apply eq_filter_of_perm h.perm h.accepted_sublist
      · intro issue hissue
        rw [h.not_hides_of_mem hissue, Bool.not_false]
      · intro issue hissue
        rw [h.hides_of_mem hissue, Bool.not_true]
    · apply eq_filter_of_perm (List.perm_append_comm.trans h.perm) h.ignored_sublist
      · intro issue hissue
        exact h.hides_of_mem hissue
      · intro issue hissue
        exact h.not_hides_of_mem hissue
  · rintro ⟨rfl, rfl⟩
    exact of_part index issues

/-- Parting the accepted issues once more leaves all of them accepted. -/
lemma again (h : index.Parts issues accepted ignored) : index.Parts accepted accepted [] where
  perm := by rw [List.append_nil]
  accepted_sublist := List.Sublist.refl accepted
  ignored_sublist := List.nil_sublist accepted
  mem_accepted_iff := fun _ hissue => iff_of_true hissue (h.not_hides_of_mem hissue)
  mem_ignored_iff := by
    intro issue hissue
    rw [h.not_hides_of_mem hissue]
    exact iff_of_false List.not_mem_nil Bool.false_ne_true

end Parts

end Suppression

namespace FileReport

/-- **Suppression moves issues and does nothing else.**  Under every index the reported and the
ignored issues of a file are the only two lists that part its candidates, parting the reported ones
once more changes nothing, and two indices give the same report but for these lists and the
directives without effect.

**Proof sketch.** A report holds the two lists of `part`, which are the only ones by
`Suppression.Parts.iff_eq_part`; the reported ones part into themselves and nothing. -/
theorem ofIndex_parts_candidates (settings : Settings) (selection : Selection) (file : String)
    (script : List (List Char)) (index other : Suppression) :
    let report := ofIndex settings selection file script
    (∀ accepted ignored,
      index.Parts (candidates settings selection file script) accepted ignored ↔
        accepted = (report index).issues ∧ ignored = (report index).ignored) ∧
    part index (report index).issues = ((report index).issues, []) ∧
    report other =
      { report index with
        issues := (report other).issues
        ignored := (report other).ignored
        unmatched := (report other).unmatched } := by
  intro report
  have hparts := Suppression.Parts.of_part index (candidates settings selection file script)
  refine ⟨fun accepted ignored => Suppression.Parts.iff_eq_part, ?_, rfl⟩
  obtain ⟨haccepted, hignored⟩ := Suppression.Parts.iff_eq_part.mp hparts.again
  exact Prod.ext haccepted.symm hignored.symm

end FileReport

end ScriptAudit
