import Mathlib.Data.List.Induction
import Mathlib.Tactic.Common
import ScriptAudit.Journal.Basic

/-!
# Runs of the journal

A journal may be set up again and again, with records written in between.  After any steps it stands
as the last set-up left it: whatever was attached before is gone, so no record is written twice, and
none is lost because of a set-up that came before.  The journal file only grows.

What a journal is like after a run is proved by what one step does to it.  The steps in between
matter for the file alone.

## Main definitions

* `ScriptAudit.Journal.SetUp`, `ScriptAudit.Journal.lastSetUp?` — what a set-up asks for, and the
  last set-up of a run.
* `ScriptAudit.Journal.Obeys` — a journal stands as a set-up left it.
* `ScriptAudit.IsPlainName` — the dotted names of parts of the program.
* `ScriptAudit.IsBelow` — the loggers of the program.

## Main results

* `ScriptAudit.Journal.setUp_eq`, `ScriptAudit.Journal.foldl_write` — what setting up and writing do
  to any journal.
* `ScriptAudit.Journal.obeys_run` — a journal obeys the last set-up.
* `ScriptAudit.Journal.run_obeys_lastSetUp` — the whole of what is said above.
-/

set_option relaxedAutoImplicit false
set_option autoImplicit false

namespace ScriptAudit

/-! ## Names of loggers -/

/-- **The name of a part of the program**: no component between its dots is empty, and it is the
name of the program itself, lies below it, or does not begin like it. -/
def IsPlainName (name : String) : Prop :=
  (∀ component ∈ name.toList.splitOn '.', component ≠ []) ∧
    (name = rootLogger ∨ (rootLogger ++ ".").toList <+: name.toList ∨
      ¬ rootLogger.toList <+: name.toList)

/-- A logger is the one of the program, or lies below it. -/
def IsBelow (logger : String) : Prop :=
  logger = rootLogger ∨ (rootLogger ++ ".").toList <+: logger.toList

/-- The records of a logger reach the journal if it is not beside the one of the program. -/
lemma reachesJournal_iff (logger : String) : reachesJournal logger = true ↔ IsBelow logger := by
  unfold reachesJournal IsBelow
  rw [Bool.or_eq_true, beq_iff_eq, List.isPrefixOf_iff_prefix]

/-- The logger of a part of the program reaches the journal.

**Proof sketch.** A plain name either does not begin with the name of the program, and is put below
it; or it is the name of the program or lies below it already, and is taken as it is. -/
lemma reachesJournal_loggerName {part : Option String} (h : ∀ name ∈ part, IsPlainName name) :
    reachesJournal (loggerName part) = true := by
  rw [reachesJournal_iff]
  cases part with
  | none => exact .inl rfl
  | some name =>
    obtain ⟨-, hname⟩ := h name rfl
    simp only [loggerName]
    split_ifs with hroot
    · rw [List.isPrefixOf_iff_prefix] at hroot
      rcases hname with hname | hname | hname
      · exact .inl hname
      · exact .inr hname
      · exact absurd hroot hname
    · have happend : (rootLogger ++ "." ++ name).toList =
          (rootLogger ++ ".").toList ++ name.toList :=
        String.toList_append
      rw [IsBelow, happend]
      exact .inr (List.prefix_append _ _)

namespace Journal

/-! ## One step -/

/-- The records in the journal file; none if it was never begun. -/
def contents (journal : Journal) : List Record := journal.file.getD []

/-- Detaching everything that is attached leaves nothing attached.

**Proof sketch.** Induction on what is attached, for any journal: a step takes one entry away and
changes nothing else. -/
lemma foldl_detach (journal : Journal) :
    journal.sinks.foldl detach journal = { journal with sinks := [] } := by
  obtain ⟨level, sinks, file⟩ := journal
  induction sinks with
  | nil => rfl
  | cons sink rest ih =>
    have hdetach : detach ⟨level, sink :: rest, file⟩ sink = ⟨level, rest, file⟩ := by
      rw [detach, List.erase_cons_head]
    rw [List.foldl_cons, hdetach]
    exact ih

/-- **Setting up** leaves nothing of the sinks and the level that were there before, and keeps the
file. -/
lemma setUp_eq (journal : Journal) (verbose quiet toFile : Bool) :
    journal.setUp verbose quiet toFile =
      { level := levelFor verbose quiet
        sinks := .console :: if toFile then [.file] else []
        file := if toFile then some journal.contents else journal.file } := by
  unfold setUp
  rw [foldl_detach]
  cases toFile <;> rfl

/-- **Writing** a record to some sinks adds it to the file once for each of them that is the file.

**Proof sketch.** Induction on the sinks.  The screen changes nothing; the file is begun or
continued, and the other sinks find the record in it. -/
lemma foldl_write (record : Record) (sinks : List Sink) (journal : Journal) :
    sinks.foldl (write record) journal =
      if .file ∈ sinks then
        { journal with
          file := some (journal.contents ++ List.replicate (sinks.count .file) record) }
      else journal := by
  induction sinks generalizing journal with
  | nil => rfl
  | cons sink rest ih =>
    rw [List.foldl_cons, ih]
    cases sink with
    | console => simp [write]
    | file =>
      by_cases hrest : .file ∈ rest
      · simp [write, contents, hrest, List.replicate_succ]
      · simp [write, contents, hrest, List.count_eq_zero_of_not_mem]

/-- A record adds to the file nothing, or itself for every sink that is the file. -/
lemma log_eq (journal : Journal) (record : Record) :
    journal.log record =
      if journal.admits record ∧ .file ∈ journal.sinks then
        { journal with
          file := some (journal.contents ++ List.replicate (journal.sinks.count .file) record) }
      else journal := by
  unfold log
  rw [foldl_write]
  split_ifs <;> simp_all

/-- **The journal file only grows**, whatever the journal was like before the step.

**Proof sketch.** By the step.  Setting up opens a file at its end, asking for a logger changes
nothing, and a record is written behind what is there. -/
lemma contents_prefix_step (journal : Journal) (step : Step) :
    journal.contents <+: (journal.step step).contents := by
  cases step with
  | setUp verbose quiet toFile =>
    rw [Journal.step, setUp_eq]
    cases toFile <;> exact List.prefix_refl _
  | logger part => exact List.prefix_refl _
  | log part level message =>
    rw [Journal.step, log_eq]
    split_ifs
    · exact List.prefix_append _ _
    · exact List.prefix_refl _

/-! ## The last set-up -/

/-- What a set-up asks for. -/
structure SetUp where
  verbose : Bool
  quiet : Bool
  toFile : Bool
  deriving DecidableEq

/-- What a step asks for, if it is a set-up. -/
def Step.setUp? : Step → Option SetUp
  | .setUp verbose quiet toFile => some ⟨verbose, quiet, toFile⟩
  | .logger _ => none
  | .log _ _ _ => none

/-- The last set-up among some steps. -/
def lastSetUp? (steps : List Step) : Option SetUp := (steps.filterMap Step.setUp?).getLast?

/-- The last set-up of a run is the last step, if it is one, or the last one before. -/
lemma lastSetUp?_append_singleton (steps : List Step) (step : Step) :
    lastSetUp? (steps ++ [step]) = step.setUp?.or (lastSetUp? steps) := by
  unfold lastSetUp?
  rw [List.filterMap_append, List.getLast?_append]
  cases hstep : step.setUp? <;> simp [hstep]

/-- **A journal stands as a set-up left it**: with the screen for a sink, then the file if it was
asked for, and at the level asked for.  If there was no set-up, it has no sinks. -/
def Obeys (journal : Journal) : Option SetUp → Prop
  | none => journal.sinks = []
  | some setUp =>
    (journal.sinks = .console :: if setUp.toFile then [.file] else []) ∧
      journal.level = if setUp.quiet then .error else if setUp.verbose then .debug else .warning

/-- A journal that stands as a set-up left it has the file for a sink at most once. -/
lemma Obeys.count_le {journal : Journal} {last : Option SetUp} (h : journal.Obeys last) :
    journal.sinks.count .file ≤ 1 := by
  cases last with
  | none =>
    rw [h]
    exact Nat.zero_le _
  | some setUp =>
    rw [h.1]
    cases setUp.toFile <;> decide

/-- Writing changes neither sinks nor level. -/
lemma Obeys.log {journal : Journal} {last : Option SetUp} (h : journal.Obeys last)
    (record : Record) :
    (journal.log record).Obeys last := by
  rw [log_eq]
  split_ifs
  · cases last <;> exact h
  · exact h

/-- **One step**: a set-up is obeyed from then on, and every other step leaves a journal as obedient
as it was. -/
lemma Obeys.step {journal : Journal} {last : Option SetUp} (h : journal.Obeys last) (step : Step) :
    (journal.step step).Obeys (step.setUp?.or last) := by
  cases step with
  | setUp verbose quiet toFile =>
    rw [Journal.step, setUp_eq]
    exact ⟨rfl, rfl⟩
  | logger part => exact h
  | log part level message => exact h.log _

/-- A run goes one step at a time. -/
lemma run_append_singleton (steps : List Step) (step : Step) :
    run (steps ++ [step]) = (run steps).step step := by
  unfold run
  rw [List.foldl_append, List.foldl_cons, List.foldl_nil]

/-- **Every run** leaves a journal as its last set-up left it. -/
lemma obeys_run (steps : List Step) : (run steps).Obeys (lastSetUp? steps) := by
  induction steps using List.reverseRecOn with
  | nil => rfl
  | append_singleton steps step ih =>
    rw [run_append_singleton, lastSetUp?_append_singleton]
    exact ih.step step

/-- **Setting up never stacks.**  After any steps the sinks of a journal are none if it was never
set up, and else the screen, followed by the file if and only if the last set-up asked for it; its
level is the one of the last set-up.  A record from a part of the program is added to the file,
once, if the file is one of the sinks and the record is at least of the level of the journal, and
nothing is added else.  What is in the file before a step stays at its beginning.

**Proof sketch.** The sinks and the level are those of `obeys_run`.  A record from a plain part
reaches the journal, so only its level decides; it is written once for each time that the file is a
sink, and that is once. -/
theorem run_obeys_lastSetUp (steps : List Step) :
    (run steps).Obeys (lastSetUp? steps) ∧
      (∀ part level message, (∀ name ∈ part, IsPlainName name) →
        (run (steps ++ [.log part level message])).file =
          if .file ∈ (run steps).sinks ∧ (run steps).level.rank ≤ level.rank then
            some ((run steps).contents ++ [⟨loggerName part, level, message⟩])
          else (run steps).file) ∧
      ∀ step, (run steps).contents <+: (run (steps ++ [step])).contents := by
  have hobeys := obeys_run steps
  refine ⟨hobeys, fun part level message hpart => ?_, fun step => ?_⟩
  · have hadmits : (run steps).admits ⟨loggerName part, level, message⟩ = true ↔
        (run steps).level.rank ≤ level.rank := by
      simp [admits, reachesJournal_loggerName hpart]
    rw [run_append_singleton, Journal.step, log_eq]
    by_cases hwritten : .file ∈ (run steps).sinks ∧ (run steps).level.rank ≤ level.rank
    · -- the file is a sink, and only once
      have hone : (run steps).sinks.count .file = 1 := by
        have hpos := List.count_pos_iff.mpr hwritten.1
        have hle := hobeys.count_le
        omega
      rw [if_pos ⟨hadmits.mpr hwritten.2, hwritten.1⟩, if_pos hwritten, hone, List.replicate_one]
    · rw [if_neg fun h => hwritten ⟨h.2, hadmits.mp h.1⟩, if_neg hwritten]
  · rw [run_append_singleton]
    exact contents_prefix_step _ step

/-- Two set-ups, the first one for everything and the second one for errors only, and a record after
each. -/
def setUpTwice : List Step :=
  [.setUp true false true, .log (some "core") .debug "a", .setUp false true true,
   .log (some "core") .warning "b"]

/-- After two set-ups the file is a sink once, and an error is added to it once. -/
theorem run_obeys_lastSetUp_twice :
    (∀ name ∈ some "core.lines", IsPlainName name) ∧
      (run setUpTwice).sinks = [.console, .file] ∧
      (run (setUpTwice ++ [.log (some "core.lines") .error "c"])).file =
        some [⟨"qube.core", .debug, "a"⟩, ⟨"qube.core.lines", .error, "c"⟩] := by
  have hplain : ∀ name ∈ some "core.lines", IsPlainName name := by
    unfold IsPlainName
    decide +kernel
  obtain ⟨hobeys, hlog, -⟩ := run_obeys_lastSetUp setUpTwice
  refine ⟨hplain, hobeys.1, ?_⟩
  rw [hlog _ _ _ hplain]
  decide +kernel

end Journal

end ScriptAudit
