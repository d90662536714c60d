import Mathlib.Tactic.Common
import ScriptAudit.Proofs.CheckedMessages
import ScriptAudit.Proofs.Numerals
import ScriptAudit.Proofs.Report

/-!
# Analysing a file step by step

The analysis of a file in which the steps that could go wrong are checked.  A literal that the
pattern of number literals has found is read as a number; the declaring line of a function is taken
by its number, when the next function begins or the script ends; the index of the script is built
and looked up as in `ScriptAudit.Proofs.CheckedIndex`, and limits are written into messages as in
`ScriptAudit.Proofs.CheckedMessages`.

Whatever the settings and the text of the script, no reading and no access goes wrong.  The analysis
is broken off if and only if a message would quote a limit that has too many digits, and gives the
report of the total analysis otherwise.

## Main definitions

* `ScriptAudit.Checked.judgeNumbers` — the check of unexplained numbers.
* `ScriptAudit.Checked.segments` — the functions of a script.
* `ScriptAudit.Checked.ofLines`, `ScriptAudit.Checked.ofSource` — the analysis of a file.
* `ScriptAudit.Checked.Quoted` — the limits that the messages of an analysis quote.

## Main results

* `ScriptAudit.Checked.exists_double_of_mem_numberLiterals` — every number literal can be read.
* `ScriptAudit.Checked.segments_eq_ok` — every declaring line exists.
* `ScriptAudit.Checked.ends_ofLines` — how the analysis of a script ends.
* `ScriptAudit.Checked.ofSource_mishap_iff` — when the analysis of a text goes wrong.
* `ScriptAudit.Checked.ofSource_farLimit` — a limit far below zero breaks it off.
-/

set_option relaxedAutoImplicit false
set_option autoImplicit false

namespace ScriptAudit.Checked

open Text Script

/-! ## Numbers -/

/-- Whether the value of a literal needs no name. -/
def isAllowedNumber (settings : Settings) (literal : List Char) : Except Mishap Bool :=
  match Number.double? literal with
  | some value => .ok (settings.allowedNumbers.any (· == value))
  | none => .error (.notNumber literal)

/-- The first literal, not right behind a quote, whose value would need a name. -/
def firstUnexplained (settings : Settings) :
    List NumberLiteral → Except Mishap (Option NumberLiteral)
  | [] => return none
  | literal :: rest =>
    if literal.before.any isQuote then firstUnexplained settings rest
    else do
      if ← isAllowedNumber settings literal.text then
        firstUnexplained settings rest
      else
        return some literal

/-- Finds the first number literal whose value would need a name. -/
def judgeNumbers (settings : Settings) (text : List Char) : Except Mishap (Option Finding) := do
  if LineCheck.mayHoldNumbers text then
    return none
  let unexplained ← firstUnexplained settings (numberLiterals text)
  return unexplained.map fun literal =>
    ⟨.info, "Magic number " ++ String.ofList literal.text ++ " (consider a named constant)"⟩

/-- The finding of a check on a line.  The message about a long line quotes a limit, and the check
of numbers reads literals. -/
def judge (settings : Settings) (line : Line) : LineCheck → Except Mishap (Option Finding)
  | .longLine =>
    sayExcess settings .lineLength line.raw.length fun limit =>
      ⟨.info, s!"Line is {line.raw.length} characters long (max {limit})"⟩
  | .magicNumber => judgeNumbers settings line.text
  | check => .ok (check.judge settings line)

/-- The limits that the message of a check on a line quotes. -/
def LineQuotes (settings : Settings) (line : Line) : LineCheck → Int → Prop
  | .longLine => settings.Quotes .lineLength line.raw.length
  | _ => fun _ => False

/-- **Every number literal can be read.**  Whatever decimal digits it is written with, and however
many, a literal that the search finds is a numeral with its sign. -/
lemma exists_double_of_mem_numberLiterals {text : List Char} {literal : NumberLiteral}
    (h : literal ∈ numberLiterals text) : ∃ value, Number.double? literal.text = some value := by
  refine forall_mem_findFrom (p := fun l => ∃ value, Number.double? l.text = some value)
    ?_ 0 none text literal h
  intro before text found after hfound
  obtain ⟨-, -, negative, n, -, rfl⟩ := (numberLiteral_eq_some_iff _ _ _ _).mp hfound
  exact ⟨_, double?_numeral negative n⟩

/-- A literal that can be read is compared with the allowed numbers as it is in the total
analysis. -/
lemma isAllowedNumber_eq_ok (settings : Settings) {literal : List Char}
    (h : ∃ value, Number.double? literal = some value) :
    isAllowedNumber settings literal = .ok (LineCheck.isAllowedNumber settings literal) := by
  obtain ⟨value, hvalue⟩ := h
  rw [isAllowedNumber, LineCheck.isAllowedNumber, hvalue]

/-- If all literals can be read, the first one that needs a name is found.

**Proof sketch.** Induction on the literals.  Those right behind a quote are not read at all; any
other one is read and, if its value is allowed, passed over. -/
lemma firstUnexplained_eq_ok (settings : Settings) (literals : List NumberLiteral)
    (h : ∀ literal ∈ literals, ∃ value, Number.double? literal.text = some value) :
    firstUnexplained settings literals =
      .ok (literals.find? fun literal =>
        !literal.before.any isQuote && !LineCheck.isAllowedNumber settings literal.text) := by
  induction literals with
  | nil => rfl
  | cons literal rest ih =>
    rw [firstUnexplained, isAllowedNumber_eq_ok settings (h literal List.mem_cons_self),
      ih fun l hl => h l (List.mem_cons_of_mem _ hl), List.find?_cons]
    cases literal.before.any isQuote with
    | true => rfl
    | false => cases LineCheck.isAllowedNumber settings literal.text <;> rfl

/-- The check of numbers always goes through. -/
lemma judgeNumbers_eq_ok (settings : Settings) (text : List Char) :
    judgeNumbers settings text = .ok (LineCheck.judgeNumbers settings text) := by
  have hfirst := firstUnexplained_eq_ok settings (numberLiterals text)
    fun _ => exists_double_of_mem_numberLiterals
  simp only [judgeNumbers, LineCheck.judgeNumbers, hfirst, ok_bind]
  cases LineCheck.mayHoldNumbers text <;> rfl

/-- A check on a line ends as the limit in its message allows.

**Proof sketch.** Only the check on the length of a line quotes a limit, and it does so exactly if
the line exceeds it.  The check on numbers reads every literal without mishap, and the others write
nothing. -/
lemma ends_judge (settings : Settings) (line : Line) (check : LineCheck) :
    Ends (LineQuotes settings line check) (judge settings line check)
      (check.judge settings line) := by
  cases check with
  | longLine =>
    have hvalue : LineCheck.judge settings line .longLine =
        if settings.exceeds .lineLength line.raw.length then
          some ⟨.info, s!"Line is {line.raw.length} characters long (max " ++
            toString (settings.limit .lineLength) ++ ")"⟩
        else none := by
      simp only [LineCheck.judge, LineCheck.judgeLength, Settings.exceeds, decide_eq_true_eq,
        ← Int.not_lt, gt_iff_lt, ite_not]
      rfl
    rw [hvalue]
    exact ends_sayExcess ..
  | magicNumber => exact .of_eq_ok (judgeNumbers_eq_ok settings line.text)
  | _ => exact .of_eq_ok rfl

/-! ## Lines -/

/-- The issue of a check on a line of a file.  A check that is switched off does not run. -/
def issue (settings : Settings) (file : String) (line : Int) (check : Check)
    (judged : Except Mishap (Option Finding)) : Except Mishap (Option Issue) :=
  if settings.enabled check then do
    let finding ← judged
    return finding.map fun finding => finding.at file line check
  else
    return none

/-- The issues of one line, in the order of the given checks. -/
def issuesOn (settings : Settings) (file : String) (checks : List LineCheck) (line : Line) :
    Except Mishap (List Issue) := do
  let issues ← checks.mapM fun check =>
    issue settings file line.number check.check (judge settings line check)
  return issues.filterMap id

/-- Scans the lines of a script. -/
def scanLines (settings : Settings) (file : String) (checks : List LineCheck)
    (script : List (List Char)) : Except Mishap LineScan := do
  let length ← issue settings file 1 .fileLength (judgeFile settings script.length)
  let issues ← (numbered 1 script).mapM (issuesOn settings file checks)
  return { LineScan.run settings file checks script with
    issues := length.toList ++ issues.flatten }

/-- A check that is switched off writes nothing. -/
lemma ends_issue {writes : Int → Prop} {judged : Except Mishap (Option Finding)}
    {finding : Option Finding} (h : Ends writes judged finding) (settings : Settings)
    (file : String) (line : Int) (check : Check) :
    Ends (fun n => settings.enabled check = true ∧ writes n)
      (issue settings file line check judged) (issueOf settings file line check finding) := by
  unfold issue issueOf
  cases settings.enabled check with
  | false => exact (Ends.of_eq_ok rfl).congr fun n => by simp
  | true => exact (h.map _).congr fun n => by simp

/-- **Checks one after the other** write the limits that any of those quotes that are switched on.

**Proof sketch.** Each check ends as the limits in its own message allow, and the rule for a step
for every entry puts them together. -/
lemma ends_issues {Kind : Type} {writes : Kind → Int → Prop}
    {judged : Kind → Except Mishap (Option Finding)} {finding : Kind → Option Finding}
    (h : ∀ kind, Ends (writes kind) (judged kind) (finding kind)) (settings : Settings)
    (file : String) (line : Int) (check : Kind → Check) (kinds : List Kind) :
    Ends (fun n => ∃ kind ∈ kinds, settings.enabled (check kind) = true ∧ writes kind n)
      (do
        let issues ← kinds.mapM fun kind => issue settings file line (check kind) (judged kind)
        return issues.filterMap id)
      (kinds.filterMap fun kind => issueOf settings file line (check kind) (finding kind)) := by
  have hkinds := Ends.mapM kinds fun kind _ =>
    ends_issue (h kind) settings file line (check kind)
  have hvalue : (kinds.filterMap fun kind =>
      issueOf settings file line (check kind) (finding kind)) =
        (kinds.map fun kind =>
          issueOf settings file line (check kind) (finding kind)).filterMap id := by
    rw [List.filterMap_map]
    rfl
  rw [hvalue]
  exact hkinds.map _

/-- The checks of one line write the limits that any of them quotes. -/
lemma ends_issuesOn (settings : Settings) (file : String) (checks : List LineCheck) (line : Line) :
    Ends (fun n => ∃ check ∈ checks, settings.enabled check.check = true ∧
        LineQuotes settings line check n)
      (issuesOn settings file checks line) (LineScan.issuesOn settings file checks line) :=
  ends_issues (ends_judge settings line) settings file line.number LineCheck.check checks

/-- The scan of the lines writes the limit on their number and those of all lines. -/
lemma ends_scanLines (settings : Settings) (file : String) (checks : List LineCheck)
    (script : List (List Char)) :
    Ends (fun n =>
        (settings.enabled .fileLength = true ∧
          settings.QuotesEither .fileSoft .fileHard script.length n) ∨
        ∃ line ∈ numbered 1 script, ∃ check ∈ checks, settings.enabled check.check = true ∧
          LineQuotes settings line check n)
      (scanLines settings file checks script) (LineScan.run settings file checks script) :=
  (ends_issue (ends_judgeFile settings script.length) settings file 1 .fileLength).bind
    ((Ends.mapM _ fun line _ => ends_issuesOn settings file checks line).map _)

/-! ## Functions -/

/-- The segment that ends where a function begins or the script ends.  The declaring line is taken
by its number. -/
def close (lines : List (List Char)) (start : Option Int) (body : List (List Char)) :
    Except Mishap (List Segment) :=
  match start with
  | none => return []
  | some start => do
    let signature ← entryAt lines (start - 1)
    return [⟨start, signature, body⟩]

/-- The segments from a line on, given the number and the body so far of the function that is being
read. -/
def segmentsFrom (lines : List (List Char)) (number : Int) (start : Option Int)
    (body : List (List Char)) : List (List Char) → Except Mishap (List Segment)
  | [] => close lines start body
  | raw :: rest =>
    if Segment.isStart raw then do
      let closed ← close lines start body
      let segments ← segmentsFrom lines (number + 1) (some number) [] rest
      return closed ++ segments
    else segmentsFrom lines (number + 1) start (if start.isSome then body ++ [raw] else body) rest

/-- The functions of a script. -/
def segments (script : List (List Char)) : Except Mishap (List Segment) :=
  segmentsFrom script 1 none [] script

/-- The issues of one function, in the order of the given checks. -/
def issuesOf (settings : Settings) (file : String) (checks : List FunctionCheck)
    (metrics : Metrics) : Except Mishap (List Issue) := do
  let issues ← checks.mapM fun check =>
    issue settings file metrics.startLine check.check (judgeFunction settings metrics check)
  return issues.filterMap id

/-- Scans the functions of a script. -/
def scanFunctions (settings : Settings) (file : String) (checks : List FunctionCheck)
    (script : List (List Char)) : Except Mishap FunctionScan := do
  let segments ← segments script
  let functions := segments.map (Segment.measure settings)
  let issues ← functions.mapM (issuesOf settings file checks)
  return ⟨functions, issues.flatten⟩

section Segments

variable {lines : List (List Char)}

/-- A function is closed if its declaring line stands where its number says. -/
lemma close_some {start : Nat} {signature : List Char} (hstart : lines[start]? = some signature)
    (body : List (List Char)) :
    close lines (some (start + 1 : Int)) body = .ok [⟨start + 1, signature, body⟩] := by
  rw [close, Int.add_sub_cancel, entryAt_eq_ok hstart]
  rfl

/-- **The loop over the lines**, while a function is being read whose declaring line stands in the
script.

**Proof sketch.** Induction on the lines to come.  A line that declares a function closes the one
that is being read, and its own number is the place at which it stands in the script. -/
lemma segmentsFrom_some (before rest : List (List Char)) (hlines : lines = before ++ rest)
    (start : Nat) (signature : List Char) (hstart : lines[start]? = some signature)
    (body : List (List Char)) :
    segmentsFrom lines (before.length + 1) (some (start + 1 : Int)) body rest =
      .ok (⟨start + 1, signature, body ++ (Segment.divide (before.length + 1) rest).1⟩ ::
        (Segment.divide (before.length + 1) rest).2) := by
  induction rest generalizing before start signature body with
  | nil => simp [segmentsFrom, close_some hstart, Segment.divide]
  | cons raw rest ih =>
    have hlines' : lines = (before ++ [raw]) ++ rest := by simp [hlines]
    have hlength : ((before ++ [raw]).length : Int) = before.length + 1 := by simp
    rw [segmentsFrom, Segment.divide]
    by_cases hraw : Segment.isStart raw = true
    · have hnext := ih _ hlines' before.length raw (by simp [hlines]) []
      rw [hlength] at hnext
      simp only [if_pos hraw, close_some hstart, hnext, ok_bind]
      simp
    · have hnext := ih _ hlines' start signature hstart (body ++ [raw])
      rw [hlength] at hnext
      simp only [if_neg hraw, Option.isSome_some, if_true, hnext]
      simp

/-- The loop over the lines, before the first function.

**Proof sketch.** Induction on the lines that are left.  At the first declaration the loop has a
function open, and `segmentsFrom_some` takes over. -/
lemma segmentsFrom_none (before rest : List (List Char)) (hlines : lines = before ++ rest) :
    segmentsFrom lines (before.length + 1) none [] rest =
      .ok (Segment.divide (before.length + 1) rest).2 := by
  induction rest generalizing before with
  | nil => rfl
  | cons raw rest ih =>
    have hlines' : lines = (before ++ [raw]) ++ rest := by simp [hlines]
    have hlength : ((before ++ [raw]).length : Int) = before.length + 1 := by simp
    rw [segmentsFrom, Segment.divide]
    by_cases hraw : Segment.isStart raw = true
    · have hnext := segmentsFrom_some _ _ hlines' before.length raw (by simp [hlines]) []
      rw [hlength] at hnext
      simp only [if_pos hraw, close, hnext, ok_bind, pure_eq_ok]
      simp
    · have hnext := ih _ hlines'
      rw [hlength] at hnext
      simp only [if_neg hraw, Option.isSome_none, Bool.false_eq_true, if_false, hnext]

/-- Every declaring line that is taken by its number exists. -/
lemma segments_eq_ok (script : List (List Char)) : segments script = .ok (Segment.ofLines script) :=
  segmentsFrom_none [] script rfl

end Segments

/-- The checks of one function write the limits that any of them quotes. -/
lemma ends_issuesOf (settings : Settings) (file : String) (checks : List FunctionCheck)
    (metrics : Metrics) :
    Ends (fun n => ∃ check ∈ checks, settings.enabled check.check = true ∧
        FunctionQuotes settings metrics check n)
      (issuesOf settings file checks metrics)
      (FunctionScan.issuesOf settings file checks metrics) :=
  ends_issues (ends_judgeFunction settings metrics) settings file metrics.startLine
    FunctionCheck.check checks

/-- The scan of the functions writes the limits that are quoted for any of them. -/
lemma ends_scanFunctions (settings : Settings) (file : String) (checks : List FunctionCheck)
    (script : List (List Char)) :
    Ends (fun n => ∃ metrics ∈ (Segment.ofLines script).map (Segment.measure settings),
        ∃ check ∈ checks, settings.enabled check.check = true ∧
          FunctionQuotes settings metrics check n)
      (scanFunctions settings file checks script)
      (FunctionScan.run settings file checks script) := by
  rw [scanFunctions, segments_eq_ok, ok_bind]
  exact (Ends.mapM _ fun metrics _ => ends_issuesOf settings file checks metrics).map _

/-! ## The whole analysis -/

/-- Scans a class, given its functions and signals. -/
def scanClass (settings : Settings) (file : String) (functions : List Metrics)
    (signals : List String) : Except Mishap ClassScan := do
  let publicFunctions := functions.countP Metrics.isPublic
  let issue ← issue settings file 1 .godClass (judgeClass settings publicFunctions signals.length)
  return ⟨issue.toList, publicFunctions, signals.length⟩

/-- Parts issues into those that are reported and those that the index hides. -/
def part (index : Suppression) : List Issue → Except Mishap (List Issue × List Issue)
  | [] => return ([], [])
  | issue :: rest => do
    let hidden ← hides index issue.line issue.check.id
    let (reported, ignored) ← part index rest
    if hidden then
      return (reported, issue :: ignored)
    else
      return (issue :: reported, ignored)

/-- Analyses a script. -/
def ofLines (settings : Settings) (selection : Selection) (file : String)
    (script : List (List Char)) : Except Mishap FileReport := do
  let index ← index script
  let lines ← scanLines settings file selection.line script
  let functions ← scanFunctions settings file selection.function script
  let whole ← scanClass settings file functions.functions lines.signals
  let (issues, ignored) ← part index (lines.issues ++ functions.issues ++ whole.issues)
  return {
    file := file
    lineCount := script.length
    issues := issues
    ignored := ignored
    functions := functions.functions
    signals := lines.signals
    dependencies := lines.dependencies
    exportCount := lines.exportCount
    debt := Debt.total settings script.length functions.functions
    unmatched := index.unmatched }

/-- Analyses the text of a script with all checks. -/
def ofSource (settings : Settings) (file source : String) : Except Mishap FileReport :=
  ofLines settings {} file (Script.lines source.toList)

/-- **The limits that the messages of an analysis quote**, whether their issues are reported or
ignored. -/
inductive Quoted (settings : Settings) (selection : Selection) (script : List (List Char))
    (report : FileReport) (n : Int) : Prop
  /-- A message about a line. -/
  | line {line : Line} {check : LineCheck} (hline : line ∈ numbered 1 script)
      (hcheck : check ∈ selection.line) (henabled : settings.enabled check.check = true)
      (h : LineQuotes settings line check n)
  /-- A message about the number of lines. -/
  | lineCount (henabled : settings.enabled .fileLength = true)
      (h : settings.QuotesEither .fileSoft .fileHard report.lineCount n)
  /-- A message about a function. -/
  | function {metrics : Metrics} {check : FunctionCheck} (hmetrics : metrics ∈ report.functions)
      (hcheck : check ∈ selection.function) (henabled : settings.enabled check.check = true)
      (h : FunctionQuotes settings metrics check n)
  /-- A message about the number of public functions. -/
  | publicFunctions (henabled : settings.enabled .godClass = true)
      (h : settings.Quotes .publicFunctions report.publicFunctionCount n)
  /-- A message about the number of signals. -/
  | signals (henabled : settings.enabled .godClass = true)
      (h : settings.Quotes .signals report.signals.length n)

/-- The scan of a class writes the limits on its size. -/
lemma ends_scanClass (settings : Settings) (file : String) (functions : List Metrics)
    (signals : List String) :
    Ends (fun n => settings.enabled .godClass = true ∧
        (settings.Quotes .publicFunctions (functions.countP Metrics.isPublic : Nat) n ∨
          settings.Quotes .signals signals.length n))
      (scanClass settings file functions signals)
      (ClassScan.run settings file functions signals) :=
  (ends_issue (ends_judgeClass settings _ _) settings file 1 .godClass).map _

/-- Parting the issues looks up entries that exist. -/
lemma part_eq_ok (index : Suppression) (issues : List Issue) :
    part index issues = .ok (FileReport.part index issues) := by
  induction issues with
  | nil => rfl
  | cons issue rest ih =>
    rw [part, hides_eq_ok, ih, FileReport.part_eq_filter, FileReport.part_eq_filter]
    simp only [ok_bind, List.filter_cons]
    cases index.hides issue.line issue.check.id <;> rfl

/-- **How the analysis of a script ends**: it gives the report of the total analysis, unless a
message quotes a limit that cannot be written.

**Proof sketch.** The index is built and looked up without mishap.  Between that, three scans follow
each other, and the limits that they write are those of the five kinds of messages. -/
lemma ends_ofLines (settings : Settings) (selection : Selection) (file : String)
    (script : List (List Char)) :
    Ends (Quoted settings selection script (FileReport.ofLines settings selection file script))
      (ofLines settings selection file script)
      (FileReport.ofLines settings selection file script) := by
  have hlines := ends_scanLines settings file selection.line script
  have hfunctions := ends_scanFunctions settings file selection.function script
  have hclass := ends_scanClass settings file
    (FunctionScan.run settings file selection.function script).functions
    (LineScan.run settings file selection.line script).signals
  simp only [ofLines, index_eq_ok, part_eq_ok, ok_bind]
  refine (hlines.bind (hfunctions.bind (hclass.map _))).congr fun n => ⟨fun h => ?_, fun h => ?_⟩
  · cases h with
    | line hline hcheck henabled h => exact .inl (.inr ⟨_, hline, _, hcheck, henabled, h⟩)
    | lineCount henabled h => exact .inl (.inl ⟨henabled, h⟩)
    | function hmetrics hcheck henabled h =>
      exact .inr (.inl ⟨_, hmetrics, _, hcheck, henabled, h⟩)
    | publicFunctions henabled h => exact .inr (.inr ⟨henabled, .inl h⟩)
    | signals henabled h => exact .inr (.inr ⟨henabled, .inr h⟩)
  · rcases h with (⟨henabled, h⟩ | ⟨line, hline, check, hcheck, henabled, h⟩) |
      ⟨metrics, hmetrics, check, hcheck, henabled, h⟩ | ⟨henabled, h | h⟩
    · exact .lineCount henabled h
    · exact .line hline hcheck henabled h
    · exact .function hmetrics hcheck henabled h
    · exact .publicFunctions henabled h
    · exact .signals henabled h

/-- Messages quote limits of the settings only.

**Proof sketch.** By what quotes the number.  Each message quotes the limit that it compares with,
or one of the two. -/
lemma exists_limit_of_quoted {settings : Settings} {selection : Selection}
    {script : List (List Char)} {report : FileReport} {n : Int}
    (h : Quoted settings selection script report n) : ∃ limit, n = settings.limit limit := by
  have heither : ∀ {soft hard : Limit} {number : Int},
      settings.QuotesEither soft hard number n → ∃ limit, n = settings.limit limit := by
    rintro soft hard number (⟨-, hn⟩ | ⟨-, -, hn⟩)
    · exact ⟨hard, hn⟩
    · exact ⟨soft, hn⟩
  cases h with
  | @line _ check _ _ _ h =>
    cases check with
    | longLine => exact ⟨_, h.2⟩
    | _ => exact h.elim
  | lineCount _ h => exact heither h
  | @function _ check _ _ _ h =>
    cases check with
    | longFunction | highComplexity => exact heither h
    | tooManyParams | deepNesting => exact ⟨_, h.2⟩
    | emptyFunction | missingReturnType => exact h.elim
  | publicFunctions _ h => exact ⟨_, h.2⟩
  | signals _ h => exact ⟨_, h.2⟩

/-- **When an analysis goes wrong.**  Every number literal that the search finds can be read as a
number, and every word that the pattern of directives captures is a keyword.  An analysis that
checks these readings, every access at a position and every limit that it writes gives the report of
the analysis that takes them for granted, whatever the path and the text, if the limits of the
settings have few enough digits.  It goes wrong if and only if it would have to quote a limit that
has too many of them, and in no other way.

**Proof sketch.** The whole analysis ends as the limits that it quotes allow, by `ends_ofLines`, and
that settles when it gives a report and when it does not.  Readings of literals and of keywords
cannot fail at all, and the limits that are quoted are limits of the settings. -/
theorem ofSource_mishap_iff (settings : Settings) (file source : String) :
    (∀ text, ∀ literal ∈ numberLiterals text,
        ∃ value, Number.double? literal.text = some value) ∧
      (∀ text, ∀ captured ∈ findAll capture text,
        ∃ kind, DirectiveKind.ofKeyword? captured.keyword = some kind) ∧
      ((∀ limit, Number.digitLimit.admits (settings.limit limit) = true) →
        ofSource settings file source = .ok (FileReport.ofSource settings file source)) ∧
      (∀ mishap, ofSource settings file source = .error mishap ↔
        mishap = .unwritable ∧
          ∃ n, Quoted settings {} (Script.lines source.toList)
            (FileReport.ofSource settings file source) n ∧ Number.digitLimit.admits n = false) ∧
      ∀ report, ofSource settings file source = .ok report ↔
        report = FileReport.ofSource settings file source ∧
          ∀ n, Quoted settings {} (Script.lines source.toList)
            (FileReport.ofSource settings file source) n → Number.digitLimit.admits n = true := by
  have hends : Ends (Quoted settings {} (Script.lines source.toList)
        (FileReport.ofSource settings file source))
      (ofSource settings file source) (FileReport.ofSource settings file source) :=
    ends_ofLines settings {} file (Script.lines source.toList)
  refine ⟨fun _ _ => exists_double_of_mem_numberLiterals, fun _ _ => exists_kind_of_mem_findAll,
    fun hlimits => ?_, fun _ => hends.eq_error_iff, fun _ => hends.eq_ok_iff⟩
  apply hends.ok
  intro n hn
  obtain ⟨limit, rfl⟩ := exists_limit_of_quoted hn
  exact hlimits limit

/-- A literal with digits of two scripts, a keyword of which another one is the beginning, and a
script with a directive and a function under limits that can all be written. -/
theorem ofSource_mishap_iff_mixed :
    (⟨some ' ', "-٣.५".toList⟩ ∈ numberLiterals "x = -٣.५".toList ∧
        ∃ value, Number.double? "-٣.५".toList = some value) ∧
      (findAll capture "# qube:ignore-block-end:a,b #".toList =
          [⟨"ignore-block-end".toList, "a,b".toList⟩] ∧
        ∃ kind, DirectiveKind.ofKeyword? "ignore-block-end".toList = some kind) ∧
      ofSource {} "a.gd" "# qube:ignore-function\nfunc f():\n\tx = -٣.५\n" =
        .ok (FileReport.ofSource {} "a.gd" "# qube:ignore-function\nfunc f():\n\tx = -٣.५\n") := by
  have hliteral : (⟨some ' ', "-٣.५".toList⟩ : NumberLiteral) ∈
      numberLiterals "x = -٣.५".toList := by
    decide +kernel
  have hcaptured : findAll capture "# qube:ignore-block-end:a,b #".toList =
      [⟨"ignore-block-end".toList, "a,b".toList⟩] := by
    decide +kernel
  have hlimits : ∀ limit, Number.digitLimit.admits (({} : Settings).limit limit) = true := by
    intro limit
    cases limit <;> decide +kernel
  obtain ⟨hnumbers, hkeywords, hreport, -⟩ := ofSource_mishap_iff {} "a.gd"
    "# qube:ignore-function\nfunc f():\n\tx = -٣.५\n"
  exact ⟨⟨hliteral, hnumbers _ _ hliteral⟩,
    ⟨hcaptured, hkeywords _ _ (hcaptured ▸ List.mem_cons_self)⟩, hreport hlimits⟩

/-- Settings whose limit on the length of lines lies so far below zero that it cannot be written. -/
def farLimit : Settings where
  limit
    | .lineLength => -.ofNat (Nat.pow 10 Number.mostDigits)
    | other => other.standard

/-- **A limit that cannot be quoted.**  Under this limit every line is too long, but the message
about it cannot be written, and the analysis of a script with a single character is broken off. -/
theorem ofSource_farLimit :
    (FileReport.ofSource farLimit "a.gd" "x").issues.map (·.check) = [.longLine] ∧
      ofSource farLimit "a.gd" "x" = .error .unwritable := by
  have hquoted : Quoted farLimit {} (Script.lines "x".toList)
      (FileReport.ofSource farLimit "a.gd" "x") (farLimit.limit .lineLength) := by
    have hline : (⟨1, ['x']⟩ : Line) ∈ numbered 1 (Script.lines "x".toList) := by decide
    have hcheck : LineCheck.longLine ∈ ({} : Selection).line := by decide
    exact .line hline hcheck rfl ⟨by decide +kernel, rfl⟩
  refine ⟨by decide +kernel, ?_⟩
  exact (ends_ofLines farLimit {} "a.gd" (Script.lines "x".toList)).error _ hquoted
    (by decide +kernel)

end ScriptAudit.Checked
