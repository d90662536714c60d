import Mathlib.Algebra.BigOperators.Group.List.Basic
import Mathlib.Algebra.Order.Ring.Nat
import Mathlib.Data.List.Nodup
import ScriptAudit.Proofs.Loosening

/-!
# Totals of a run

The numbers of a run come one by one: lists are joined and lines added up as reports are taken in,
debt is added up afterwards, issues are counted by severity and by check, and the exit code is
chosen by what was counted.  All of them respect the order in which reports are put together, so the
run of two lists of reports is the sum of their runs, and they agree with each other.  Only issues
that are reported count.

## Main definitions

* `ScriptAudit.Run.IsSum` — a run is put together from two others.
* `ScriptAudit.Run.IsConsistent` — the numbers of a run fit its issues and each other.
* `ScriptAudit.Run.AgreesWith` — two runs have the same issues and the same numbers.

## Main results

* `ScriptAudit.Run.sum_countP_eq_length` — counting by a key loses nothing.
* `ScriptAudit.Run.isSum_ofReports_append` — reports may be put together in parts, the numbers of a
  run are consistent, and ignored issues have no influence on them.
-/

set_option relaxedAutoImplicit false
set_option autoImplicit false

namespace ScriptAudit.Run

/-- The number that a run states for a check.  A check without issues is not mentioned. -/
def statedFor (run : Run) (check : Check) : Nat := (run.countByCheck.lookup check).getD 0

/-- **A run that is put together from two others**: lists come one behind the other, numbers add up,
and the graver exit code wins. -/
structure IsSum (whole first second : Run) : Prop where
  files : whole.files = first.files ++ second.files
  issues : whole.issues = first.issues ++ second.issues
  ignored : whole.ignored = first.ignored ++ second.ignored
  fileCount : whole.fileCount = first.fileCount + second.fileCount
  lineCount : whole.lineCount = first.lineCount + second.lineCount
  debt : whole.debt = first.debt + second.debt
  count : ∀ severity, whole.count severity = first.count severity + second.count severity
  statedFor : ∀ check, whole.statedFor check = first.statedFor check + second.statedFor check
  exitCode : whole.exitCode = max first.exitCode second.exitCode

/-- **A run whose numbers fit together.** -/
structure IsConsistent (run : Run) : Prop where
  /-- Every issue has one of the three severities. -/
  count : run.count .critical + run.count .warning + run.count .info = run.issues.length
  /-- Every issue is counted for one check. -/
  sum : (run.countByCheck.map Prod.snd).sum = run.issues.length
  /-- What is stated for a check is the number of its issues, and never zero. -/
  stated : ∀ entry ∈ run.countByCheck,
    entry.2 = run.issues.countP (·.check == entry.1) ∧ 0 < entry.2
  /-- Checks are mentioned in the order of their identifiers. -/
  ordered : run.countByCheck.Pairwise fun a b => a.1.id ≤ b.1.id
  /-- A check is mentioned at most once. -/
  nodup : (run.countByCheck.map Prod.fst).Nodup
  /-- A check is mentioned if and only if it has an issue. -/
  mem_iff : ∀ check, check ∈ run.countByCheck.map Prod.fst ↔
      ∃ issue ∈ run.issues, issue.check = check
  /-- No issue is graver than the exit code says. -/
  le_exitCode : ∀ issue ∈ run.issues, issue.severity.rank ≤ run.exitCode
  /-- The exit code is the one of an issue if there is any. -/
  exitCode_mem : run.issues ≠ [] → ∃ issue ∈ run.issues, run.exitCode = issue.severity.rank
  /-- Without issues the exit code is zero. -/
  exitCode_nil : run.issues = [] → run.exitCode = 0

/-- Two runs report the same issues and state the same numbers. -/
structure AgreesWith (a b : Run) : Prop where
  issues : a.issues = b.issues
  paths : a.files.map (·.file) = b.files.map (·.file)
  fileCount : a.fileCount = b.fileCount
  lineCount : a.lineCount = b.lineCount
  debt : a.debt = b.debt
  count : a.count = b.count
  countByCheck : a.countByCheck = b.countByCheck
  exitCode : a.exitCode = b.exitCode

/-! ## Counting by a key -/

section Count

variable {α κ : Type} [DecidableEq κ]

/-- Adding up ones for a key counts how often it occurs. -/
lemma sum_map_ite_beq (keys : List κ) (k : κ) :
    (keys.map fun key => if k == key then 1 else 0).sum = keys.count k := by
  induction keys with
  | nil => rfl
  | cons key rest ih =>
    rw [List.map_cons, List.sum_cons, ih, List.count_cons, Nat.add_comm, Bool.beq_comm]

/-- **Counting by a key loses nothing**, if every key is looked at once.

**Proof sketch.** Induction on the entries.  One more entry adds one to the number of its own key,
which is among the keys exactly once. -/
lemma sum_countP_eq_length {keys : List κ} (hnodup : keys.Nodup)
    (hkeys : ∀ k, k ∈ keys) (key : α → κ) (entries : List α) :
    (keys.map fun k => entries.countP (key · == k)).sum = entries.length := by
  induction entries with
  | nil => simp
  | cons entry rest ih =>
    have hone := sum_map_ite_beq keys (key entry)
    rw [List.count_eq_one_of_mem hnodup (hkeys _)] at hone
    simp only [List.countP_cons, List.sum_map_add, ih, hone, List.length_cons]

end Count

/-! ## Tables without zeros -/

section Table

variable {κ : Type} (n : κ → Nat) (keys : List κ)

/-- The table of the numbers of some keys that leaves out the zeros. -/
def tableOf : List (κ × Nat) :=
  keys.filterMap fun key => if n key = 0 then none else some (key, n key)

/-- A table has an entry for a key if its number is not zero.

**Proof sketch.** An entry is made for a key exactly if its number is not zero, and it holds this
number. -/
lemma mem_tableOf_iff (entry : κ × Nat) :
    entry ∈ tableOf n keys ↔ entry.1 ∈ keys ∧ entry.2 = n entry.1 ∧ 0 < entry.2 := by
  unfold tableOf
  rw [List.mem_filterMap]
  constructor
  · rintro ⟨key, hkey, hentry⟩
    split_ifs at hentry with hzero
    obtain rfl := Option.some.inj hentry
    exact ⟨hkey, rfl, Nat.pos_of_ne_zero hzero⟩
  · rintro ⟨hkey, hvalue, hpos⟩
    refine ⟨entry.1, hkey, ?_⟩
    rw [if_neg (by omega), ← hvalue]

/-- The keys of a table are those whose number is not zero. -/
lemma map_fst_tableOf : (tableOf n keys).map Prod.fst = keys.filter fun key => n key ≠ 0 := by
  unfold tableOf
  induction keys with
  | nil => rfl
  | cons key rest ih => by_cases hzero : n key = 0 <;> simp [hzero, ih]

/-- Leaving out zeros does not change a sum. -/
lemma sum_map_snd_tableOf : ((tableOf n keys).map Prod.snd).sum = (keys.map n).sum := by
  unfold tableOf
  induction keys with
  | nil => rfl
  | cons key rest ih => by_cases hzero : n key = 0 <;> simp [hzero, ih]

/-- A key that was left out is read as zero, in whatever order the others stand.

**Proof sketch.** What is found under a key is an entry of the table, and so it holds the number of
that key.  If nothing is found the number is zero, since otherwise there would be an entry. -/
lemma lookup_getD_of_perm_tableOf [DecidableEq κ] {table : List (κ × Nat)}
    (hperm : table.Perm (tableOf n keys)) {k : κ} (hk : k ∈ keys) :
    (table.lookup k).getD 0 = n k := by
  cases hlookup : table.lookup k with
  | some value =>
    obtain ⟨before, after, htable, -⟩ := List.lookup_eq_some_iff.mp hlookup
    have hentry : (k, value) ∈ tableOf n keys := by
      rw [← hperm.mem_iff, htable]
      exact List.mem_append_right before List.mem_cons_self
    exact ((mem_tableOf_iff n keys (k, value)).mp hentry).2.1
  | none =>
    by_contra hne
    have hentry : (k, n k) ∈ table :=
      hperm.mem_iff.mpr
        ((mem_tableOf_iff n keys (k, n k)).mpr ⟨hk, rfl, Nat.pos_of_ne_zero (Ne.symm hne)⟩)
    have hkey := List.lookup_eq_none_iff.mp hlookup (k, n k) hentry
    simp at hkey

end Table

/-! ## Numbers of one run -/

/-- All checks are listed. -/
lemma mem_all_checks (check : Check) : check ∈ Check.all := by
  cases check <;> decide

/-- The counts of a run are the table of the numbers of issues, in the order of the identifiers. -/
lemma isStableSort_countByCheck (run : Run) :
    IsStableSort (fun entry : Check × Nat => entry.1.id)
      (tableOf (fun check => run.issues.countP (·.check == check)) Check.all) run.countByCheck :=
  isStableSort_mergeSort (fun entry : Check × Nat => entry.1.id) run.counts

/-- What a run states for a check is the number of its issues. -/
lemma statedFor_eq (run : Run) (check : Check) :
    run.statedFor check = run.issues.countP (·.check == check) :=
  lookup_getD_of_perm_tableOf _ _ run.isStableSort_countByCheck.perm (mem_all_checks check)

/-- **The numbers of a run fit together.**

**Proof sketch.** Each issue has one severity and one check, so counting by either counts every
issue once.  The table is a stable sort of the numbers that are not zero.  The exit code is the rank
of the gravest issue, or zero. -/
lemma isConsistent (run : Run) : run.IsConsistent where
  count := by
    have hnodup : Severity.all.Nodup := by decide
    have hall : ∀ severity, severity ∈ Severity.all := by
      intro severity
      cases severity <;> decide
    have hsum := sum_countP_eq_length hnodup hall Issue.severity run.issues
    simp only [Severity.all, List.map_cons, List.map_nil, List.sum_cons, List.sum_nil] at hsum
    unfold count
    omega
  sum := by
    rw [(run.isStableSort_countByCheck.perm.map Prod.snd).sum_eq, sum_map_snd_tableOf]
    exact sum_countP_eq_length (by decide) mem_all_checks Issue.check run.issues
  stated := by
    intro entry hentry
    rw [run.isStableSort_countByCheck.perm.mem_iff, mem_tableOf_iff] at hentry
    exact hentry.2
  ordered := run.isStableSort_countByCheck.ordered
  nodup := by
    rw [(run.isStableSort_countByCheck.perm.map Prod.fst).nodup_iff, map_fst_tableOf]
    exact List.Nodup.filter _ (by decide)
  mem_iff := by
    intro check
    rw [(run.isStableSort_countByCheck.perm.map Prod.fst).mem_iff, map_fst_tableOf]
    simp [mem_all_checks]
  le_exitCode := fun issue hissue => rank_le_exitCode hissue
  exitCode_mem := by
    intro hissues
    rcases run.exitCode_eq_rank with hzero | hrank
    · obtain ⟨issue, hissue⟩ := List.exists_mem_of_ne_nil _ hissues
      have hle := rank_le_exitCode hissue
      exact ⟨issue, hissue, by omega⟩
    · exact hrank
  exitCode_nil := by
    intro hissues
    rcases run.exitCode_eq_rank with hzero | ⟨issue, hissue, -⟩
    · exact hzero
    · rw [hissues] at hissue
      exact absurd hissue List.not_mem_nil

/-! ## Several runs -/

/-- Sums over two lists add up. -/
lemma foldr_add_append {α : Type} (f : α → Int) (as bs : List α) :
    (as ++ bs).foldr (fun a n => f a + n) 0 =
      as.foldr (fun a n => f a + n) 0 + bs.foldr (fun a n => f a + n) 0 := by
  induction as with
  | nil => simp
  | cons a rest ih =>
    rw [List.cons_append, List.foldr_cons, List.foldr_cons, ih]
    omega

/-- The run of two lists of reports, one behind the other, is the sum of their runs.

**Proof sketch.** The issues of the whole are those of the first part followed by those of the
second, so all counts add up, and so do the sums over files.  The exit code is decided by which of
these counts are not zero. -/
lemma isSum_ofReports (as bs : List FileReport) (s t u : Float) :
    (ofReports s (as ++ bs)).IsSum (ofReports t as) (ofReports u bs) := by
  have hissues : (ofReports s (as ++ bs)).issues =
      (ofReports t as).issues ++ (ofReports u bs).issues := by
    simp [ofReports_eq]
  have hcount : ∀ severity, (ofReports s (as ++ bs)).count severity =
      (ofReports t as).count severity + (ofReports u bs).count severity := by
    intro severity
    rw [count, hissues, List.countP_append]
    rfl
  exact
    { files := by simp
      issues := hissues
      ignored := by simp [ofReports_eq]
      fileCount := by simp [ofReports_eq]
      lineCount := by
        rw [ofReports_eq, ofReports_eq, ofReports_eq]
        exact foldr_add_append _ as bs
      debt := by
        rw [debt, files_ofReports, foldr_add_append]
        simp [debt]
      count := hcount
      statedFor := by
        intro check
        rw [statedFor_eq, statedFor_eq, statedFor_eq, hissues, List.countP_append]
      exitCode := by
        -- the ladder of the whole run is decided by whether one of two numbers is not zero
        unfold exitCode
        rw [hcount, hcount]
        split_ifs <;> omega }

/-- What a report says apart from its ignored issues. -/
def visible (report : FileReport) : FileReport := { report with ignored := [] }

/-- Runs of reports that agree in all but their ignored issues agree in all numbers.

**Proof sketch.** The issues, the paths and all numbers of a report are read off what is visible of
it, and those of a run are put together from those of its reports. -/
lemma agreesWith_of_map_visible {as bs : List FileReport} (h : as.map visible = bs.map visible)
    (s t : Float) : (ofReports s as).AgreesWith (ofReports t bs) := by
  have hissues : (ofReports s as).issues = (ofReports t bs).issues := by
    have hvisible := congrArg (List.flatMap (·.issues)) h
    rw [List.flatMap_map, List.flatMap_map] at hvisible
    rw [ofReports_eq, ofReports_eq]
    exact hvisible
  have hsum : ∀ f : FileReport → Int, (∀ file, f (visible file) = f file) →
      as.foldr (fun file n => f file + n) 0 = bs.foldr (fun file n => f file + n) 0 := by
    intro f hf
    have hvisible := congrArg (List.foldr (fun file n => f file + n) 0) h
    simpa only [List.foldr_map, hf] using hvisible
  exact
    { issues := hissues
      paths := by
        have hvisible := congrArg (List.map (·.file)) h
        rw [List.map_map, List.map_map] at hvisible
        rw [files_ofReports, files_ofReports]
        exact hvisible
      fileCount := by
        have hlength := congrArg List.length h
        rw [List.length_map, List.length_map] at hlength
        rw [ofReports_eq, ofReports_eq, hlength]
      lineCount := by
        rw [ofReports_eq, ofReports_eq]
        exact hsum FileReport.lineCount fun _ => rfl
      debt := by
        rw [debt, debt, files_ofReports, files_ofReports]
        exact hsum FileReport.debt fun _ => rfl
      count := by
        funext severity
        rw [count, count, hissues]
      countByCheck := by rw [countByCheck, countByCheck, counts, counts, hissues]
      exitCode := by
        unfold exitCode count
        rw [hissues] }

/-- **Runs add up.**  The run of two lists of reports put together is the sum of their runs; in the
run of any list, the numbers fit the issues and each other; and replacing the ignored issues of its
reports by any others changes none of them.

**Proof sketch.** The parts are `isSum_ofReports`, `isConsistent` and `agreesWith_of_map_visible`;
what is visible of a report does not change with its ignored issues. -/
theorem isSum_ofReports_append (as bs : List FileReport) (s t u : Float) :
    (ofReports s (as ++ bs)).IsSum (ofReports t as) (ofReports u bs) ∧
      (ofReports t as).IsConsistent ∧
      ∀ ignored : Nat → List Issue,
        (ofReports s (as.mapIdx fun i report => { report with ignored := ignored i })).AgreesWith
          (ofReports t as) := by
  refine ⟨isSum_ofReports as bs s t u, isConsistent _,
    fun ignored => agreesWith_of_map_visible ?_ s t⟩
  apply List.ext_getElem?
  intro i
  rw [List.getElem?_map, List.getElem?_map]
  simp only [List.getElem?_mapIdx, Option.map_map]
  rfl

end ScriptAudit.Run
