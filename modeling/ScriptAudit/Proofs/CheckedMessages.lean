import Mathlib.Tactic.Common
import ScriptAudit.Checks.File
import ScriptAudit.Proofs.CheckedIndex

/-!
# Messages that quote limits

Messages about long lines, about files, functions and classes quote the limit that is exceeded.  An
integer may have too many digits to be written, and settings take any integer for a limit.  A limit
that is exceeded by a count of lines or characters is never large, but it may lie far below zero.
Here every limit that goes into a message is written by a step that may fail.

A step ends in one of two ways, and which one it is depends only on the integers that it writes.
The rules for this follow the steps: what a sequence writes is what its parts write.

The counts in a message are written without such a check: they count what is in a text, and no text
has so many characters.

## Main definitions

* `ScriptAudit.Checked.written` — an integer as a message shows it.
* `ScriptAudit.Checked.Ends` — how a step ends that writes certain integers.
* `ScriptAudit.Checked.judgeFunction`, `ScriptAudit.Checked.judgeFile`,
  `ScriptAudit.Checked.judgeClass` — the checks whose messages quote limits.
* `ScriptAudit.Settings.Quotes`, `ScriptAudit.Settings.QuotesEither` — the limits that are quoted.

## Main results

* `ScriptAudit.Checked.Ends.bind`, `ScriptAudit.Checked.Ends.mapM` — how sequences of steps end.
* `ScriptAudit.Checked.ends_judgeFunction`, `ScriptAudit.Checked.ends_judgeFile`,
  `ScriptAudit.Checked.ends_judgeClass` — how the checks end.
-/

set_option relaxedAutoImplicit false
set_option autoImplicit false

namespace ScriptAudit

namespace Settings

/-- A message about a number quotes a limit: the number exceeds it. -/
def Quotes (settings : Settings) (limit : Limit) (number quoted : Int) : Prop :=
  settings.limit limit < number ∧ quoted = settings.limit limit

/-- A message about a number quotes one of two limits: the graver one if the number exceeds it, and
the milder one if the number exceeds only that. -/
def QuotesEither (settings : Settings) (soft hard : Limit) (number quoted : Int) : Prop :=
  settings.Quotes hard number quoted ∨
    number ≤ settings.limit hard ∧ settings.Quotes soft number quoted

/-- One of two limits is quoted if and only if it is exceeded. -/
lemma quotesEither_iff {settings : Settings} {soft hard : Limit} {number quoted : Int} :
    settings.QuotesEither soft hard number quoted ↔
      ∃ severity, settings.excess? soft hard number = some (severity, quoted) := by
  unfold QuotesEither Quotes excess?
  split_ifs with hgrave hmild <;> simp [*, eq_comm]
  all_goals omega

end Settings

namespace Checked

variable {α β : Type}

/-! ## Steps that write integers -/

/-- An integer as a message shows it. -/
def written (n : Int) : Except Mishap String :=
  if Number.digitLimit.admits n then .ok (toString n) else .error .unwritable

/-- **How a step ends** that writes certain integers: it gives a value if all of them can be
written, and is broken off if one of them cannot. -/
structure Ends (writes : Int → Prop) (step : Except Mishap α) (value : α) : Prop where
  /-- All integers can be written. -/
  ok : (∀ n, writes n → Number.digitLimit.admits n = true) → step = .ok value
  /-- One of the integers cannot be written. -/
  error : ∀ n, writes n → Number.digitLimit.admits n = false → step = .error .unwritable

namespace Ends

variable {writes writes' : Int → Prop} {step : Except Mishap α} {value : α}

/-- A step that always gives its value writes nothing. -/
lemma of_eq_ok (h : step = .ok value) : Ends (fun _ => False) step value :=
  ⟨fun _ => h, fun _ hfalse => hfalse.elim⟩

/-- Only which integers are written matters. -/
lemma congr (h : Ends writes step value) (hwrites : ∀ n, writes' n ↔ writes n) :
    Ends writes' step value where
  ok hall := h.ok fun n hn => hall n ((hwrites n).mpr hn)
  error n hn := h.error n ((hwrites n).mp hn)

/-- A step either gives its value or is broken off. -/
lemma ok_or_error (h : Ends writes step value) :
    (step = .ok value ∧ ∀ n, writes n → Number.digitLimit.admits n = true) ∨
      step = .error .unwritable ∧ ∃ n, writes n ∧ Number.digitLimit.admits n = false := by
  by_cases hall : ∀ n, writes n → Number.digitLimit.admits n = true
  · exact .inl ⟨h.ok hall, hall⟩
  · push Not at hall
    obtain ⟨n, hn, hadmits⟩ := hall
    have hadmits := Bool.eq_false_of_not_eq_true hadmits
    exact .inr ⟨h.error n hn hadmits, n, hn, hadmits⟩

/-- A step gives a result if and only if it is the value and all integers can be written. -/
lemma eq_ok_iff (h : Ends writes step value) {result : α} :
    step = .ok result ↔
      result = value ∧ ∀ n, writes n → Number.digitLimit.admits n = true := by
  obtain ⟨hstep, hall⟩ | ⟨hstep, n, hn, hadmits⟩ := h.ok_or_error
  · rw [hstep, Except.ok.injEq, eq_comm]
    exact (and_iff_left hall).symm
  · rw [hstep]
    refine ⟨fun hresult => by simp at hresult, fun hresult => ?_⟩
    simp [hresult.2 n hn] at hadmits

/-- A step is broken off if and only if one of the integers cannot be written, and in no other
way. -/
lemma eq_error_iff (h : Ends writes step value) {mishap : Mishap} :
    step = .error mishap ↔
      mishap = .unwritable ∧ ∃ n, writes n ∧ Number.digitLimit.admits n = false := by
  obtain ⟨hstep, hall⟩ | ⟨hstep, hexists⟩ := h.ok_or_error
  · rw [hstep]
    refine ⟨fun hmishap => by simp at hmishap, ?_⟩
    rintro ⟨-, n, hn, hadmits⟩
    simp [hall n hn] at hadmits
  · rw [hstep, Except.error.injEq, eq_comm]
    exact (and_iff_left hexists).symm

/-- **Two steps one after the other** write what both of them write.

**Proof sketch.** If the first step is broken off, so is the sequence.  If not, the second step
decides. -/
lemma bind {next : α → Except Mishap β} {result : β} (h : Ends writes step value)
    (hnext : Ends writes' (next value) result) :
    Ends (fun n => writes n ∨ writes' n) (step >>= next) result where
  ok hall := by
    rw [h.ok fun n hn => hall n (.inl hn), ok_bind]
    exact hnext.ok fun n hn => hall n (.inr hn)
  error n hn hadmits := by
    obtain ⟨hstep, hall⟩ | ⟨hstep, -⟩ := h.ok_or_error
    · have hn := hn.resolve_left fun hfirst => by simp [hall n hfirst] at hadmits
      rw [hstep, ok_bind]
      exact hnext.error n hn hadmits
    · rw [hstep]
      rfl

/-- What is done to the value of a step writes nothing. -/
lemma map (h : Ends writes step value) (f : α → β) :
    Ends writes (step >>= fun x => .ok (f x)) (f value) := by
  have hdone : Ends (fun _ => False) (Except.ok (f value)) (f value) := of_eq_ok rfl
  have hboth : Ends _ (step >>= fun x => .ok (f x)) (f value) := h.bind hdone
  exact hboth.congr fun n => by simp

/-- **A step for every entry** of a list writes what it writes for any of them.

**Proof sketch.** Induction on the list, by the rule for two steps. -/
lemma mapM {writes : α → Int → Prop} {step : α → Except Mishap β} {value : α → β} (entries : List α)
    (h : ∀ entry ∈ entries, Ends (writes entry) (step entry) (value entry)) :
    Ends (fun n => ∃ entry ∈ entries, writes entry n) (entries.mapM step) (entries.map value) := by
  induction entries with
  | nil => exact (of_eq_ok rfl).congr fun n => by simp
  | cons entry rest ih =>
    have hrest := ih fun other hother => h other (List.mem_cons_of_mem _ hother)
    rw [List.mapM_cons, List.map_cons]
    exact ((h entry List.mem_cons_self).bind (hrest.map (value entry :: ·))).congr fun n => by simp

end Ends

/-- Writing an integer ends as its digits allow. -/
lemma ends_written (n : Int) : Ends (· = n) (written n) (toString n) where
  ok hall := if_pos (hall n rfl)
  error m hm hadmits := if_neg (by simp [← hm, hadmits])

/-! ## Numbers that exceed limits -/

/-- What is to be said about a number that exceeds a limit. -/
def sayExcess (settings : Settings) (limit : Limit) (number : Int) (say : String → α) :
    Except Mishap (Option α) :=
  if settings.exceeds limit number then do
    let shown ← written (settings.limit limit)
    return some (say shown)
  else
    return none

/-- What is to be said about a number that exceeds one of two limits. -/
def sayEither (settings : Settings) (soft hard : Limit) (number : Int)
    (say : Severity → String → α) : Except Mishap (Option α) :=
  match settings.excess? soft hard number with
  | some (severity, limit) => do
    let shown ← written limit
    return some (say severity shown)
  | none => return none

/-- Whether something is said about a number depends on its limit, and whether it can be said on the
digits of that limit. -/
lemma ends_sayExcess (settings : Settings) (limit : Limit) (number : Int) (say : String → α) :
    Ends (settings.Quotes limit number) (sayExcess settings limit number say)
      (if settings.exceeds limit number then some (say (toString (settings.limit limit)))
        else none) := by
  unfold sayExcess Settings.Quotes
  by_cases hexceeds : settings.exceeds limit number = true
  · have hlt : settings.limit limit < number := of_decide_eq_true hexceeds
    rw [if_pos hexceeds, if_pos hexceeds]
    exact ((ends_written _).map fun shown => some (say shown)).congr fun n => by simp [hlt]
  · have hlt : ¬ settings.limit limit < number := fun h => hexceeds (decide_eq_true h)
    rw [if_neg hexceeds, if_neg hexceeds]
    exact (Ends.of_eq_ok rfl).congr fun n => by simp [hlt]

/-- Of two limits, the one that is exceeded is written.

**Proof sketch.** By which limit is exceeded: none is written, or the one that `excess?` gives, and
these are the limits that are quoted. -/
lemma ends_sayEither (settings : Settings) (soft hard : Limit) (number : Int)
    (say : Severity → String → α) :
    Ends (settings.QuotesEither soft hard number) (sayEither settings soft hard number say)
      ((settings.excess? soft hard number).map fun (severity, limit) =>
        say severity (toString limit)) := by
  unfold sayEither
  cases hexcess : settings.excess? soft hard number with
  | none =>
    exact (Ends.of_eq_ok rfl).congr fun n => by simp [Settings.quotesEither_iff, hexcess]
  | some excess =>
    obtain ⟨severity, limit⟩ := excess
    exact ((ends_written limit).map fun shown => some (say severity shown)).congr fun n => by
      simp [Settings.quotesEither_iff, hexcess, eq_comm]

/-! ## Functions -/

/-- The finding of a check on a function. -/
def judgeFunction (settings : Settings) (metrics : Metrics) :
    FunctionCheck → Except Mishap (Option Finding)
  | .longFunction =>
    sayEither settings .functionLong .functionCritical metrics.lineCount fun severity limit =>
      ⟨severity,
        FunctionCheck.subject metrics ++ s!" has {metrics.lineCount} lines (max {limit})"⟩
  | .highComplexity =>
    sayEither settings .complexityWarning .complexityCritical metrics.complexity
      fun severity limit =>
        ⟨severity, FunctionCheck.subject metrics ++
          s!" has cyclomatic complexity {metrics.complexity} (max {limit})"⟩
  | .tooManyParams =>
    sayExcess settings .parameters metrics.parameterCount fun limit =>
      ⟨.warning, FunctionCheck.subject metrics ++
        s!" has {metrics.parameterCount} parameters (max {limit})"⟩
  | .deepNesting =>
    sayExcess settings .nesting metrics.nesting fun limit =>
      ⟨.warning, FunctionCheck.subject metrics ++
        s!" has nesting depth {metrics.nesting} (max {limit})"⟩
  | check => .ok (check.judge settings metrics)

/-- The limits that the message of a check on a function quotes. -/
def FunctionQuotes (settings : Settings) (metrics : Metrics) : FunctionCheck → Int → Prop
  | .longFunction => settings.QuotesEither .functionLong .functionCritical metrics.lineCount
  | .highComplexity =>
    settings.QuotesEither .complexityWarning .complexityCritical metrics.complexity
  | .tooManyParams => settings.Quotes .parameters metrics.parameterCount
  | .deepNesting => settings.Quotes .nesting metrics.nesting
  | _ => fun _ => False

/-- A check on a function ends as the limits in its message allow. -/
lemma ends_judgeFunction (settings : Settings) (metrics : Metrics) (check : FunctionCheck) :
    Ends (FunctionQuotes settings metrics check) (judgeFunction settings metrics check)
      (check.judge settings metrics) := by
  cases check with
  | longFunction | highComplexity => exact ends_sayEither ..
  | tooManyParams | deepNesting => exact ends_sayExcess ..
  | emptyFunction | missingReturnType => exact .of_eq_ok rfl

/-! ## Files and classes -/

/-- The finding on the number of lines of a file. -/
def judgeFile (settings : Settings) (lineCount : Int) : Except Mishap (Option Finding) :=
  sayEither settings .fileSoft .fileHard lineCount fun severity limit =>
    let word := if severity = .critical then "critical threshold" else "threshold"
    ⟨severity, s!"File has {lineCount} lines ({word}: {limit})"⟩

/-- The check on the number of lines ends as the limit in its message allows. -/
lemma ends_judgeFile (settings : Settings) (lineCount : Int) :
    Ends (settings.QuotesEither .fileSoft .fileHard lineCount) (judgeFile settings lineCount)
      (FileCheck.judgeLength settings lineCount) :=
  ends_sayEither ..

/-- The finding on the size of a class.  Its message may quote two limits. -/
def judgeClass (settings : Settings) (publicFunctions signals : Nat) :
    Except Mishap (Option Finding) := do
  let ofFunctions ← sayExcess settings .publicFunctions publicFunctions fun limit =>
    s!"{publicFunctions} public functions (max {limit})"
  let ofSignals ← sayExcess settings .signals signals fun limit =>
    s!"{signals} signals (max {limit})"
  let reasons := ofFunctions.toList ++ ofSignals.toList
  return if reasons.isEmpty then none
    else some ⟨.warning, "God class: " ++ ", ".intercalate reasons⟩

/-- The check on the size of a class ends as the limits in its message allow.

**Proof sketch.** The two reasons are made one after the other, and each of them quotes its own
limit. -/
lemma ends_judgeClass (settings : Settings) (publicFunctions signals : Nat) :
    Ends (fun n => settings.Quotes .publicFunctions publicFunctions n ∨
        settings.Quotes .signals signals n)
      (judgeClass settings publicFunctions signals)
      (FileCheck.judgeClass settings publicFunctions signals) := by
  have hreasons : ∀ (exceeded : Bool) (reason : String),
      (if exceeded = true then some reason else none).toList =
        if exceeded then [reason] else [] := by
    intro exceeded reason
    cases exceeded <;> rfl
  refine (ends_sayExcess ..).bind (((ends_sayExcess ..).bind (.of_eq_ok ?_)).congr fun n => ?_)
  · simp only [hreasons]
    rfl
  · simp

end Checked

end ScriptAudit
