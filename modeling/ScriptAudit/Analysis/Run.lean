import ScriptAudit.Analysis.File
import ScriptAudit.Number.Shortest

/-!
# Runs over many files

A run analyses the files that are not excluded and reports them in the order of their paths.  It
gathers their issues and adds up their lines as it goes along; all further numbers are derived from
what it has gathered.

## Main definitions

* `ScriptAudit.Run` — the outcome of a run, with the numbers derived from it.
* `ScriptAudit.Run.add`, `ScriptAudit.Run.ofReports` — the run of given reports, in the order given,
  one report at a time.
* `ScriptAudit.Run.collect` — the run of given reports, sorted by path.
* `ScriptAudit.Run.ofSources` — the run over given sources.
* `ScriptAudit.Run.usesPool` — whether several workers share the files of a run.

## Main results

* `ScriptAudit.Run.ofReports_eq` — what a run has gathered from its reports.

## Implementation notes

Paths are compared code point by code point.  Sorting keeps the order of reports with equal paths.
`ofSources` takes the sources in turn.  A pool of workers hands its reports to `collect` in the
order in which they are done.
-/

set_option autoImplicit false

namespace ScriptAudit

/-- Whether one text comes before another or equals it, comparing code points. -/
def textLe : List Char → List Char → Bool
  | [], _ => true
  | _ :: _, [] => false
  | a :: as, b :: bs => if a = b then textLe as bs else decide (a.toNat < b.toNat)

/-- The outcome of a run. -/
structure Run where
  /-- The reports of the files, in the order of the report. -/
  files : List FileReport := []
  /-- The reported issues of all files. -/
  issues : List Issue := []
  /-- The suppressed issues of all files. -/
  ignored : List Issue := []
  /-- The number of files. -/
  fileCount : Nat := 0
  /-- The number of lines of all files. -/
  lineCount : Int := 0
  /-- How long the run took, in seconds. -/
  elapsed : Float

namespace Run

/-- The debt of all files. -/
def debt (run : Run) : Int := run.files.foldr (fun file n => file.debt + n) 0

/-- The number of reported issues of a severity. -/
def count (run : Run) (severity : Severity) : Nat :=
  run.issues.countP (·.severity == severity)

/-- The exit code of a run: two if an issue is critical, one if one is a warning, and zero else. -/
def exitCode (run : Run) : Nat :=
  if run.count .critical ≠ 0 then 2 else if run.count .warning ≠ 0 then 1 else 0

/-- The number of reported issues of each check that has any, in the order of the checks. -/
def counts (run : Run) : List (Check × Nat) :=
  Check.all.filterMap fun check =>
    let n := run.issues.countP (·.check == check)
    if n = 0 then none else some (check, n)

/-- The number of reported issues of each check that has any, in the order of the identifiers. -/
def countByCheck (run : Run) : List (Check × Nat) :=
  run.counts.mergeSort fun a b => textLe a.1.id.toList b.1.id.toList

/-- The duration of the run as reports state it, to four decimal places. -/
def elapsedText (run : Run) : String := Number.text (Number.roundPlaces 4 run.elapsed)

/-- The run with one more report. -/
def add (run : Run) (report : FileReport) : Run :=
  { run with
    files := run.files ++ [report]
    issues := run.issues ++ report.issues
    ignored := run.ignored ++ report.ignored
    lineCount := run.lineCount + report.lineCount }

/-- The run of given reports, in the order given.  The files are counted at the end. -/
def ofReports (elapsed : Float) (reports : List FileReport) : Run :=
  let run := reports.foldl add { elapsed := elapsed }
  { run with fileCount := run.files.length }

/-- The run of given reports, in the order of their paths. -/
def collect (elapsed : Float) (reports : List FileReport) : Run :=
  ofReports elapsed (reports.mergeSort fun a b => textLe a.file.toList b.file.toList)

/-- The sources, each a path and a text, that a run does not leave out. -/
def included (settings : Settings) (sources : List (String × String)) : List (String × String) :=
  sources.filter fun (path, _) => !settings.excludes path

/-- Whether the files of a run are shared among workers: only if more than one worker is asked for,
and not for fewer than ten files. -/
def usesPool (workers : Option Int) (fileCount : Nat) : Bool :=
  decide (10 ≤ fileCount) && workers.any fun count => decide (1 < count)

/-- The run over given sources. -/
def ofSources (settings : Settings) (elapsed : Float) (sources : List (String × String)) : Run :=
  collect elapsed
    ((included settings sources).map fun (path, source) => .ofSource settings path source)

/-! ## What a run has gathered -/

/-- Adding reports to a run appends what they hold. -/
theorem foldl_add (run : Run) (reports : List FileReport) :
    reports.foldl add run =
      { run with
        files := run.files ++ reports
        issues := run.issues ++ reports.flatMap (·.issues)
        ignored := run.ignored ++ reports.flatMap (·.ignored)
        lineCount := run.lineCount + reports.foldr (fun file n => file.lineCount + n) 0 } := by
  induction reports generalizing run with
  | nil => simp
  | cons report rest ih =>
    rw [List.foldl_cons, ih]
    simp [add, Int.add_assoc]

/-- **What a run has gathered** from its reports, all of them taken together. -/
theorem ofReports_eq (elapsed : Float) (reports : List FileReport) :
    ofReports elapsed reports =
      { files := reports
        issues := reports.flatMap (·.issues)
        ignored := reports.flatMap (·.ignored)
        fileCount := reports.length
        lineCount := reports.foldr (fun file n => file.lineCount + n) 0
        elapsed := elapsed } := by
  simp [ofReports, foldl_add]

end Run

end ScriptAudit
