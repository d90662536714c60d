import Mathlib.Data.List.TakeWhile
import ScriptAudit.Proofs.JournalRuns

/-!
# Loggers beside the program

Loggers stand in a hierarchy that follows the components of their dotted names: below the logger of
the program are those whose first component is its name.  Whether the name of a part is put below
that logger is decided otherwise, by how the name begins, character by character.  The two agree,
with one exception.  If the first component of a name begins with the name of the program and goes
on after it, the name is taken as it is, and its logger stands beside the one of the program; no
set-up makes its records reach the journal.

## Main definitions

* `ScriptAudit.DottedName` — names without empty components.
* `ScriptAudit.firstComponent`, `ScriptAudit.IsLookAlike` — what stands before the first dot of a
  name, and the names that only look as if they were below the program.

## Main results

* `ScriptAudit.isBelow_iff` — a logger is below the one of the program by its first component.
* `ScriptAudit.Journal.run_log_unless_lookAlike` — which parts of a program reach its journal.
* `ScriptAudit.Journal.run_log_lookAlike` — a part whose records are lost.
-/

set_option relaxedAutoImplicit false
set_option autoImplicit false

namespace ScriptAudit

/-! ## Components -/

/-- **A dotted name**: no component between its dots is empty. -/
structure DottedName where
  text : String
  full : ∀ component ∈ text.toList.splitOn '.', component ≠ []

/-- What stands before the first dot of a name. -/
def firstComponent (name : String) : List Char := name.toList.takeWhile (· != '.')

/-- **A name that looks like one below the program**: its first component begins with the name of
the program, but is longer. -/
def IsLookAlike (name : String) : Prop :=
  rootLogger.toList <+: firstComponent name ∧ firstComponent name ≠ rootLogger.toList

instance : DecidablePred IsLookAlike := fun _ => inferInstanceAs (Decidable (_ ∧ _))

/-- No dot occurs in the name of the program. -/
lemma bne_of_mem_rootLogger : ∀ c ∈ rootLogger.toList, (c != '.') = true := by
  simp [rootLogger]

/-- **The hierarchy follows the components**: a logger is below the one of the program if its first
component is the name of the program.

**Proof sketch.** The name is its first component, followed by nothing or by a dot.  With nothing
behind it the logger is that of the program; with a dot it begins with the name of the program and a
dot.  Conversely the name of the program has no dot, so the first component ends right behind it. -/
lemma isBelow_iff (logger : String) :
    IsBelow logger ↔ firstComponent logger = rootLogger.toList := by
  have hdot : (rootLogger ++ ".").toList = rootLogger.toList ++ ['.'] := by simp
  have hsplit : firstComponent logger ++ logger.toList.dropWhile (· != '.') = logger.toList :=
    List.takeWhile_append_dropWhile
  rw [IsBelow, hdot]
  constructor
  · rintro (rfl | ⟨rest, hrest⟩)
    · exact List.takeWhile_eq_self_iff.mpr bne_of_mem_rootLogger
    · rw [List.append_assoc, List.singleton_append] at hrest
      rw [firstComponent, ← hrest, List.takeWhile_append_of_pos bne_of_mem_rootLogger]
      simp
  · intro hfirst
    rw [hfirst] at hsplit
    cases hrest : logger.toList.dropWhile (· != '.') with
    | nil =>
      rw [hrest, List.append_nil] at hsplit
      exact .inl (String.toList_inj.mp hsplit.symm)
    | cons c rest =>
      have hc : c = '.' := by
        have hstop := List.head?_dropWhile_not (· != '.') logger.toList
        simpa [hrest] using hstop
      refine .inr ⟨rest, ?_⟩
      rw [← hsplit, hrest, hc, List.append_assoc, List.singleton_append]

/-- A name begins with the name of the program if its first component does. -/
lemma rootLogger_prefix_iff (name : String) :
    rootLogger.toList <+: name.toList ↔ rootLogger.toList <+: firstComponent name := by
  constructor
  · rintro ⟨rest, hrest⟩
    rw [firstComponent, ← hrest, List.takeWhile_append_of_pos bne_of_mem_rootLogger]
    exact List.prefix_append _ _
  · intro h
    exact h.trans (List.takeWhile_prefix _)

/-! ## Loggers of parts -/

/-- The first component of the logger of a part is that of its name if this begins like the program,
and the name of the program otherwise.

**Proof sketch.** A name that begins like the program is taken as it is.  Any other one is put below
the name of the program. -/
lemma firstComponent_loggerName (name : String) :
    firstComponent (loggerName (some name)) =
      if rootLogger.toList <+: firstComponent name then firstComponent name
        else rootLogger.toList := by
  have hbelow : firstComponent (rootLogger ++ "." ++ name) = rootLogger.toList := by
    rw [← isBelow_iff]
    refine .inr ⟨name.toList, ?_⟩
    simp
  rw [loggerName]
  simp only [List.isPrefixOf_iff_prefix, rootLogger_prefix_iff]
  split_ifs
  · rfl
  · exact hbelow

/-- **The logger of a part is below the one of the program** unless its name is a look-alike. -/
lemma isBelow_loggerName_iff (part : Option String) :
    IsBelow (loggerName part) ↔ ∀ name ∈ part, ¬ IsLookAlike name := by
  cases part with
  | none => simp [loggerName, IsBelow]
  | some name =>
    rw [isBelow_iff, firstComponent_loggerName]
    simp only [Option.mem_some_iff, forall_eq', IsLookAlike, not_and_not_right]
    split_ifs with hroot
    · simp [hroot]
    · simp [hroot]

namespace Journal

/-- After a set-up that names a file, a record is added to the file if the journal takes it.

**Proof sketch.** The sinks after such a set-up are the screen and the file, so the file is there,
and once. -/
lemma file_log_of_lastSetUp {steps : List Step} {setUp : SetUp}
    (hlast : lastSetUp? steps = some setUp) (hfile : setUp.toFile = true) (record : Record) :
    ((run steps).log record).file =
      if (run steps).admits record then some ((run steps).contents ++ [record])
        else (run steps).file := by
  have hobeys := obeys_run steps
  rw [hlast] at hobeys
  have hsinks : (run steps).sinks = [.console, .file] := by rw [hobeys.1, hfile]; rfl
  rw [log_eq, hsinks]
  split_ifs with hboth hadmits hadmits
  · rfl
  · exact absurd hboth.1 hadmits
  · exact absurd ⟨hadmits, by decide⟩ hboth
  · rfl

/-- **Which parts of a program reach its journal.**  The logger of a part is the one of the program
or lies below it, unless the first component of its name begins with the name of the program and
goes on.  After any steps whose last set-up names a file, a record of at least the level of that
set-up is added to the file if it comes from a part of the first sort, and is lost if it comes from
one of the second.

**Proof sketch.** The logger reaches the journal exactly if it is below that of the program, and
`isBelow_loggerName_iff` says when it is.  The level of the journal is that of the last set-up, so a
record of this level or above is admitted exactly in this case. -/
theorem run_log_unless_lookAlike (part : Option DottedName) :
    (loggerName (part.map (·.text)) = rootLogger ∨
        (rootLogger ++ ".").toList <+: (loggerName (part.map (·.text))).toList ↔
      ∀ name ∈ part, ¬ IsLookAlike name.text) ∧
    ∀ (steps : List Step) (setUp : SetUp) (level : Level) (message : String),
      lastSetUp? steps = some setUp → setUp.toFile = true →
      (levelFor setUp.verbose setUp.quiet).rank ≤ level.rank →
        (run (steps ++ [.log (part.map (·.text)) level message])).file =
          if ∀ name ∈ part, ¬ IsLookAlike name.text then
            some ((run steps).contents ++ [⟨loggerName (part.map (·.text)), level, message⟩])
          else (run steps).file := by
  have hbelow : IsBelow (loggerName (part.map (·.text))) ↔
      ∀ name ∈ part, ¬ IsLookAlike name.text := by
    rw [isBelow_loggerName_iff]
    cases part <;> simp
  refine ⟨hbelow, fun steps setUp level message hlast hfile hlevel => ?_⟩
  have hobeys := obeys_run steps
  rw [hlast] at hobeys
  have hadmits : (run steps).admits ⟨loggerName (part.map (·.text)), level, message⟩ = true ↔
      ∀ name ∈ part, ¬ IsLookAlike name.text := by
    rw [← hbelow, ← reachesJournal_iff, admits, Bool.and_eq_true, decide_eq_true_eq]
    refine and_iff_left ?_
    rw [hobeys.2]
    exact hlevel
  rw [run_append_singleton, Journal.step, file_log_of_lastSetUp hlast hfile]
  simp only [hadmits]

/-- After a quiet set-up behind a verbose one, an error of `qube.core` is added to the file and an
error of `qubex.core` is not. -/
theorem run_log_unless_lookAlike_twoParts :
    lastSetUp? [.setUp true false true, .setUp false true true] = some ⟨false, true, true⟩ ∧
      (run [.setUp true false true, .setUp false true true,
        .log (some "qube.core") .error "kept"]).file =
        some [⟨"qube.core", .error, "kept"⟩] ∧
      (run [.setUp true false true, .setUp false true true,
        .log (some "qubex.core") .error "lost"]).file =
        some [] := by
  have hlast : lastSetUp? [.setUp true false true, .setUp false true true] =
      some ⟨false, true, true⟩ := by
    decide
  have hlevel : (levelFor false true).rank ≤ Level.error.rank := by decide
  let core : DottedName := ⟨"qube.core", by decide +kernel⟩
  let lookAlike : DottedName := ⟨"qubex.core", by decide +kernel⟩
  have hkept := (run_log_unless_lookAlike (some core)).2 _ _ _ "kept" hlast rfl hlevel
  have hlost := (run_log_unless_lookAlike (some lookAlike)).2 _ _ _ "lost" hlast rfl hlevel
  refine ⟨hlast, hkept.trans ?_, hlost.trans ?_⟩ <;> decide +kernel

/-- **A part whose records are lost.**  The name `qubex` has no empty component and is taken as it
is, so its logger is not below the one of the program.  Although the file was named by the set-up
and the record is as grave as can be, the file stays empty. -/
theorem run_log_lookAlike :
    (∀ component ∈ "qubex".toList.splitOn '.', component ≠ []) ∧
      loggerName (some "qubex") = "qubex" ∧
      ¬ (loggerName (some "qubex") = rootLogger ∨
        (rootLogger ++ ".").toList <+: (loggerName (some "qubex")).toList) ∧
      lastSetUp? [.setUp false false true] = some ⟨false, false, true⟩ ∧
      (run [.setUp false false true, .log (some "qubex") .critical "lost"]).file = some [] := by
  decide +kernel

end Journal

end ScriptAudit
