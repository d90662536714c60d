import Mathlib.Tactic.Common
import ScriptAudit.Proofs.Placement
import ScriptAudit.Proofs.Renumbering
import ScriptAudit.Proofs.Totals

/-!
# Scripts one behind the other

If a script is put behind another one and begins with a function, nothing that was read before has
an influence on what is read in it.  The function that was open ends there, nesting and `match`
blocks begin anew, and no check of a line remembers another line.  So the scans of the whole are the
scans of both parts, one behind the other, where the lines of the second part have other numbers.
The number of lines of the whole is the exception: its issue and its debt are not made of those of
the parts.

## Main definitions

* `ScriptAudit.Issue.renumber`, `ScriptAudit.Metrics.renumber`, `ScriptAudit.Segment.renumber` — an
  issue, a function and a segment on another line.
* `ScriptAudit.LineScan.followedBy`, `ScriptAudit.FunctionScan.followedBy` — two scans one behind
  the other.
* `ScriptAudit.LineScan.besidesLength`, `ScriptAudit.FileReport.debtBesidesLength` — a scan without
  the issue about the number of lines, and a debt without the weight of that number.

## Main results

* `ScriptAudit.Segment.ofLines_append`, `ScriptAudit.LineScan.run_append`,
  `ScriptAudit.FunctionScan.run_append` — the functions and the scans of two scripts one behind the
  other.
* `ScriptAudit.FileReport.scans_append` — scans and debt compose where a function begins.
-/

set_option relaxedAutoImplicit false
set_option autoImplicit false

namespace ScriptAudit

open Script

/-! ## Other numbers -/

/-- The issue on the line with another number. -/
def Issue.renumber (f : Int → Int) (issue : Issue) : Issue := { issue with line := f issue.line }

/-- The function that begins on the line with another number. -/
def Metrics.renumber (f : Int → Int) (metrics : Metrics) : Metrics :=
  { metrics with startLine := f metrics.startLine }

/-- The segment that begins on the line with another number. -/
def Segment.renumber (f : Int → Int) (segment : Segment) : Segment :=
  { segment with startLine := f segment.startLine }

section Renumber

variable (settings : Settings) (file : String) (f : Int → Int)

/-- The issues of several checks stand where they are put. -/
lemma filterMap_issueOf_renumber {Kind : Type} (checks : List Kind) (line : Int)
    (check : Kind → Check) (finding : Kind → Option Finding) :
    (checks.filterMap fun kind => issueOf settings file (f line) (check kind) (finding kind)) =
      (checks.filterMap fun kind => issueOf settings file line (check kind) (finding kind)).map
        (.renumber f) := by
  rw [List.map_filterMap]
  refine congrArg (List.filterMap · checks) (funext fun kind => ?_)
  unfold issueOf
  split
  · rw [Option.map_map]
    rfl
  · rfl

/-- What the checks find on a line does not depend on the number of the line. -/
lemma LineScan.issuesOn_renumber (checks : List LineCheck) (line : Line) :
    issuesOn settings file checks (line.renumber f) =
      (issuesOn settings file checks line).map (.renumber f) := by
  have hjudge (check : LineCheck) :
      check.judge settings (line.renumber f) = check.judge settings line := by
    cases check <;> rfl
  unfold issuesOn
  simp only [hjudge]
  exact filterMap_issueOf_renumber settings file f checks line.number _ _

/-- What the checks find in a function does not depend on where the function begins. -/
lemma FunctionScan.issuesOf_renumber (checks : List FunctionCheck) (metrics : Metrics) :
    issuesOf settings file checks (metrics.renumber f) =
      (issuesOf settings file checks metrics).map (.renumber f) := by
  have hjudge (check : FunctionCheck) :
      check.judge settings (metrics.renumber f) = check.judge settings metrics := by
    cases check <;> rfl
  unfold issuesOf
  simp only [hjudge]
  exact filterMap_issueOf_renumber settings file f checks metrics.startLine _ _

/-- Debt does not depend on the lines on which functions begin. -/
lemma Debt.ofFunctions_renumber (functions : List Metrics) :
    ofFunctions settings (functions.map (.renumber f)) = ofFunctions settings functions := by
  unfold ofFunctions
  rw [List.foldr_map]
  rfl

/-- The debt of functions adds up. -/
lemma Debt.ofFunctions_append (functions others : List Metrics) :
    ofFunctions settings (functions ++ others) =
      ofFunctions settings functions + ofFunctions settings others :=
  Run.foldr_add_append (ofFunction settings) functions others

end Renumber

/-! ## Functions -/

namespace Segment

/-- **A script begins with a function**, unless it is empty. -/
def BeginsWithFunction (script : List (List Char)) : Prop :=
  ∀ raw ∈ script.head?, isStart raw = true

/-- Nothing stands before the first function of a script that begins with one. -/
lemma preamble_of_beginsWithFunction {script : List (List Char)} (h : BeginsWithFunction script)
    (first : Int) :
    (divide first script).1 = [] := by
  cases script with
  | nil => rfl
  | cons raw rest => simp [divide, h raw rfl]

/-- Dividing at declarations does not depend on the numbers of the lines. -/
lemma divide_add (first n : Int) (script : List (List Char)) :
    divide (first + n) script =
      ((divide first script).1, (divide first script).2.map (.renumber (· + n))) := by
  induction script generalizing first with
  | nil => rfl
  | cons raw rest ih =>
    have hnext : first + n + 1 = first + 1 + n := by omega
    rw [divide, divide, hnext, ih]
    dsimp only
    split <;> rfl

/-- What is divided behind the beginning of a function is divided on its own.

**Proof sketch.** Induction on the lines above.  They leave no line of the second part over, since
that begins with a declaration. -/
lemma divide_append {below : List (List Char)} (h : BeginsWithFunction below) (first : Int)
    (above : List (List Char)) :
    divide first (above ++ below) =
      ((divide first above).1,
        (divide first above).2 ++ (divide (first + above.length) below).2) := by
  induction above generalizing first with
  | nil =>
    have hbelow := preamble_of_beginsWithFunction h first
    rw [List.nil_append, List.length_nil, Int.ofNat_zero, Int.add_zero, divide,
      List.nil_append, ← hbelow]
  | cons raw rest ih =>
    have hlength : first + 1 + (rest.length : Int) = first + ((raw :: rest).length : Int) := by
      push_cast [List.length_cons]
      omega
    rw [List.cons_append, divide, divide, ih, hlength]
    dsimp only
    split <;> rfl

/-- **The functions of two scripts one behind the other** are those of both. -/
lemma ofLines_append {below : List (List Char)} (h : BeginsWithFunction below)
    (above : List (List Char)) :
    ofLines (above ++ below) =
      ofLines above ++ (ofLines below).map (.renumber (· + above.length)) := by
  unfold ofLines
  rw [divide_append h, divide_add]

end Segment

/-! ## Scans -/

/-- What the lines tell, apart from their number. -/
def LineScan.besidesLength (scan : LineScan) : LineScan :=
  { scan with issues := scan.issues.filter (·.check != .fileLength) }

/-- Two scans of lines one behind the other, the first one of a script with `n` lines. -/
def LineScan.followedBy (n : Nat) (first second : LineScan) : LineScan where
  issues := first.issues ++ second.issues.map (.renumber (· + n))
  signals := first.signals ++ second.signals
  dependencies := first.dependencies ++ second.dependencies
  exportCount := first.exportCount + second.exportCount

/-- Two scans of functions one behind the other, the first one of a script with `n` lines. -/
def FunctionScan.followedBy (n : Nat) (first second : FunctionScan) : FunctionScan where
  functions := first.functions ++ second.functions.map (.renumber (· + n))
  issues := first.issues ++ second.issues.map (.renumber (· + n))

/-- The debt of a report without the weight of the number of lines. -/
def FileReport.debtBesidesLength (settings : Settings) (report : FileReport) : Int :=
  report.debt - Debt.ofFile settings report.lineCount

section Scans

variable (settings : Settings) (file : String)

/-- No check of single lines is about the number of lines.

**Proof sketch.** The issue about the number of lines is the only one of the check that is left out,
since all others come from checks of the first stage on single lines, and the length of a file is
checked in another stage. -/
lemma LineScan.besidesLength_run (checks : List LineCheck) (script : List (List Char)) :
    (run settings file checks script).besidesLength =
      { run settings file checks script with
        issues := issuesIn settings file checks (numbered 1 script) } := by
  have hlength : (issueOf settings file 1 .fileLength
      (FileCheck.judgeLength settings script.length)).toList.filter (·.check != .fileLength) =
        [] := by
    rw [List.filter_eq_nil_iff]
    intro issue hissue
    obtain ⟨-, -, hcheck, -⟩ := of_issueOf_eq_some (Option.mem_toList.mp hissue)
    simp [hcheck]
  have hlines :
      (issuesIn settings file checks (numbered 1 script)).filter (·.check != .fileLength) =
        issuesIn settings file checks (numbered 1 script) := by
    rw [List.filter_eq_self]
    intro issue hissue
    have hstage : issue.check.stage = 1 := stage_of_mem_scan LineCheck.stage_check issue hissue
    rw [bne_iff_ne]
    intro hcheck
    rw [hcheck] at hstage
    cases hstage
  unfold besidesLength run
  rw [List.filter_append, hlength, hlines, List.nil_append]

/-- **The lines of two scripts one behind the other** tell what both tell.

**Proof sketch.** The lines of the second script have their numbers shifted by the length of the
first one, and a check on a line depends on the number only in that it reports it. -/
lemma LineScan.run_append (checks : List LineCheck) (above below : List (List Char)) :
    (run settings file checks (above ++ below)).besidesLength =
      (run settings file checks above).besidesLength.followedBy above.length
        (run settings file checks below).besidesLength := by
  have hnumbers : numbered (1 + above.length) below =
      (numbered 1 below).map (.renumber (· + above.length)) :=
    (Suppression.map_renumber_numbered fun k _ => by omega).symm
  have hissues : issuesIn settings file checks (numbered 1 (above ++ below)) =
      issuesIn settings file checks (numbered 1 above) ++
        (issuesIn settings file checks (numbered 1 below)).map (.renumber (· + above.length)) := by
    unfold issuesIn
    rw [numbered_append, List.flatMap_append, hnumbers, List.flatMap_map, List.map_flatMap]
    simp only [issuesOn_renumber]
  rw [besidesLength_run, besidesLength_run, besidesLength_run, hissues]
  simp only [followedBy, run, List.filterMap_append, List.flatMap_append, List.map_append,
    List.countP_append]

/-- **The functions of two scripts one behind the other** tell what both tell.

**Proof sketch.** The second script begins with a declaration, so the segments of the whole are
those of both scripts.  Measures do not depend on the numbers of lines, except for the first line
itself. -/
lemma FunctionScan.run_append (checks : List FunctionCheck) (above : List (List Char))
    {below : List (List Char)} (h : Segment.BeginsWithFunction below) :
    run settings file checks (above ++ below) =
      (run settings file checks above).followedBy above.length
        (run settings file checks below) := by
  have hfunctions : (Segment.ofLines (above ++ below)).map (Segment.measure settings) =
      (Segment.ofLines above).map (Segment.measure settings) ++
        ((Segment.ofLines below).map (Segment.measure settings)).map
          (.renumber (· + above.length)) := by
    rw [Segment.ofLines_append h, List.map_append, List.map_map, List.map_map]
    rfl
  simp only [run, followedBy, hfunctions, List.flatMap_append, List.flatMap_map, List.map_flatMap,
    issuesOf_renumber]

/-- The debt of a file without the weight of its number of lines is that of its functions. -/
lemma FileReport.debtBesidesLength_ofLines (selection : Selection) (script : List (List Char)) :
    (ofLines settings selection file script).debtBesidesLength settings =
      Debt.ofFunctions settings
        (FunctionScan.run settings file selection.function script).functions := by
  have hdebt : (ofLines settings selection file script).debt = Debt.ofFile settings script.length +
      Debt.ofFunctions settings
        (FunctionScan.run settings file selection.function script).functions := rfl
  have hcount : (ofLines settings selection file script).lineCount = script.length := rfl
  rw [debtBesidesLength, hdebt, hcount]
  omega

end Scans

/-- **Scanning composes where a function begins.**  Let a script begin with a function, or be empty,
and put it behind another one.  Apart from the number of lines, the scan of the lines of the whole
is that of the first part followed by that of the second one; the scan of the functions is so as a
whole; and so is the debt, if it is taken without the weight of the number of lines.  All this holds
for all settings and for every choice of checks. -/
theorem FileReport.scans_append {below : List (List Char)} (h : Segment.BeginsWithFunction below)
    (above : List (List Char)) (settings : Settings) (selection : Selection) (file : String) :
    (LineScan.run settings file selection.line (above ++ below)).besidesLength =
        (LineScan.run settings file selection.line above).besidesLength.followedBy above.length
          (LineScan.run settings file selection.line below).besidesLength ∧
      FunctionScan.run settings file selection.function (above ++ below) =
        (FunctionScan.run settings file selection.function above).followedBy above.length
          (FunctionScan.run settings file selection.function below) ∧
      (ofLines settings selection file (above ++ below)).debtBesidesLength settings =
        (ofLines settings selection file above).debtBesidesLength settings +
          (ofLines settings selection file below).debtBesidesLength settings := by
  have hfunctions := FunctionScan.run_append settings file selection.function above h
  refine ⟨LineScan.run_append settings file selection.line above below, hfunctions, ?_⟩
  rw [debtBesidesLength_ofLines, debtBesidesLength_ofLines, debtBesidesLength_ofLines, hfunctions,
    FunctionScan.followedBy, Debt.ofFunctions_append, Debt.ofFunctions_renumber]

/-- Settings under which everything that can be counted is too much. -/
def noAllowance : Settings where
  limit _ := 0

/-- A signal, and a function that ends in an open block. -/
def openBlockScript : List (List Char) :=
  ["signal hit", "func a(x):", "\tmatch x:", "\t\t1: pass"].map (·.toList)

/-- A function whose body would read as another arm. -/
def armScript : List (List Char) := ["func b():", "\t\t2: print(7)"].map (·.toList)

/-- The second script is read as if nothing stood before it. -/
theorem FileReport.scans_append_openBlock :
    Segment.BeginsWithFunction armScript ∧
      ((FunctionScan.run noAllowance "a.gd" FunctionCheck.all
        (openBlockScript ++ armScript)).functions.map
        fun metrics => (metrics.startLine, metrics.complexity)) = [(2, 2), (5, 1)] ∧
      ((LineScan.run noAllowance "a.gd" [.printStatement, .magicNumber]
        (openBlockScript ++ armScript)).besidesLength.issues.map (·.line)) = [6, 6] ∧
      (ofLines noAllowance {} "a.gd" (openBlockScript ++ armScript)).debtBesidesLength noAllowance =
        100 := by
  have hbegins : Segment.BeginsWithFunction armScript := by
    rintro raw ⟨rfl⟩
    decide
  have hlines := (scans_append hbegins openBlockScript noAllowance
    { line := [.printStatement, .magicNumber] } "a.gd").1
  obtain ⟨-, hfunctions, hdebt⟩ := scans_append hbegins openBlockScript noAllowance {} "a.gd"
  refine ⟨hbegins, ?_, ?_, ?_⟩
  · rw [hfunctions]
    decide +kernel
  · rw [hlines]
    decide +kernel
  · rw [hdebt]
    decide +kernel

end ScriptAudit
