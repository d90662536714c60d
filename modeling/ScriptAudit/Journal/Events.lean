import ScriptAudit.Analysis.Run
import ScriptAudit.Journal.Basic

/-!
# Events worth recording

What a run over sources and the loading of settings write to the journal.

## Main definitions

* `ScriptAudit.Run.events` — the records of a run.
* `ScriptAudit.Settings.events` — the records of settings that were loaded.
-/

set_option autoImplicit false

namespace ScriptAudit

/-- A list of line numbers as a record shows it. -/
def lineList (lines : List Int) : String := "[" ++ ", ".intercalate (lines.map toString) ++ "]"

namespace Run

/-- The record of a source that is left out. -/
def skipEvent (path : String) : Record :=
  ⟨"qube.core.aggregate", .debug, "Skipping excluded path: " ++ path⟩

/-- The record of a file whose directives are not all of effect. -/
def unmatchedEvent? (path source : String) : Option Record :=
  let unmatched := (Suppression.ofLines (Script.lines source.toList)).unmatched
  if unmatched.isEmpty then none
  else some ⟨"qube.core.analyzer", .debug,
    path ++ ": unmatched ignore directives on lines " ++ lineList unmatched⟩

/-- The record of a run that is complete. -/
def doneEvent (files : Nat) (elapsed : Float) : Record :=
  ⟨"qube.core.aggregate", .info,
    "Analyzed " ++ toString files ++ " files in " ++ Number.fixed 3 elapsed ++ "s"⟩

/-- The records of a run over given sources: first of all sources that are left out, then of the
files, in the order of the sources, and last of the run itself. -/
def events (settings : Settings) (elapsed : Float) (sources : List (String × String)) :
    List Record :=
  let files := included settings sources
  ((sources.filter fun (path, _) => settings.excludes path).map fun (path, _) => skipEvent path)
    ++ (files.filterMap fun (path, source) => unmatchedEvent? path source)
    ++ [doneEvent files.length elapsed]

end Run

/-- The records of settings that were loaded: a warning for each pair of limits that stands the
wrong way round. -/
def Settings.events (settings : Settings) : List Record :=
  settings.inversions.map fun remark =>
    ⟨"qube.config", .warning, "Inconsistent thresholds: " ++ remark⟩

end ScriptAudit
