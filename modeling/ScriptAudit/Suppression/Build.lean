import ScriptAudit.Function.Segment
import ScriptAudit.Suppression.Index

/-!
# Building a suppression index

The directives of a script, read line by line and from left to right, give its index.

* A file directive counts in the first ten lines only.
* A function directive is about the first function declared on a later line, up to the line before
  the next declaration.
* The end of a block closes the block begun last.  An end without a beginning, a beginning without
  an end, and a function directive with no function behind it have no effect and are noted.

## Main definitions

* `ScriptAudit.Suppression.functionRange?` — the range of a function directive.
* `ScriptAudit.Suppression.pairUp` — the ranges of blocks and functions, and the lines of directives
  without effect.
* `ScriptAudit.Suppression.ofLines` — the index of a script.
-/

set_option autoImplicit false

namespace ScriptAudit.Suppression

open Script

/-- The last line on which a file directive counts. -/
def headerLines : Int := 10

/-- The numbers of the lines that declare functions. -/
def declarationLines (lines : List Line) : List Int :=
  (lines.filter fun line => isFunctionDeclaration line.text).map (·.number)

/-- All directives of a script, in the order of reading. -/
def directives (lines : List Line) : List Directive :=
  lines.flatMap fun line => Directive.findOn line.number line.raw

/-- The range of a function directive on the given line: from the first declaration behind that line
to the line before the next one, or to the last line of the script. -/
def functionRange? (declarations : Array Int) (total : Int) (directive : Directive) :
    Option LineRange :=
  let position := upperBound declarations directive.line
  declarations[position]?.map fun first =>
    let last := match declarations[position + 1]? with
      | some next => next - 1
      | none => total
    ⟨first, last, directive.ids⟩

/-- The ranges of the function and block directives, in the order in which they are complete, and
the lines of those without effect.  The blocks begun and not yet ended are given, the last one
first. -/
def pairUp (declarations : Array Int) (total : Int) :
    List Directive → List Directive → List LineRange × List Int
  | begun, [] => ([], begun.map (·.line))
  | begun, directive :: rest =>
    match directive.kind with
    | .function =>
      let (ranges, unmatched) := pairUp declarations total begun rest
      match functionRange? declarations total directive with
      | some range => (range :: ranges, unmatched)
      | none => (ranges, directive.line :: unmatched)
    | .blockStart => pairUp declarations total (directive :: begun) rest
    | .blockEnd =>
      match begun with
      | start :: outer =>
        let (ranges, unmatched) := pairUp declarations total outer rest
        (⟨start.line, directive.line, start.ids⟩ :: ranges, unmatched)
      | [] =>
        let (ranges, unmatched) := pairUp declarations total [] rest
        (ranges, directive.line :: unmatched)
    | _ => pairUp declarations total begun rest

/-- The table of the directives of one kind, by line. -/
def tableOf (kind : DirectiveKind) (directives : List Directive) : LineTable :=
  (directives.filter (·.kind == kind)).foldl (fun table d => table.add d.line d.ids) []

/-- The index of a script. -/
def ofLines (script : List (List Char)) : Suppression :=
  let lines := numbered 1 script
  let found := directives lines
  let (ranges, unmatched) := pairUp (declarationLines lines).toArray script.length [] found
  .of ((found.filter fun d => d.kind == .file && d.line ≤ headerLines).map (·.ids))
    ((found.filter (·.kind == .below)).map fun d => ⟨d.line, d.ids⟩)
    ranges (tableOf .line found) (tableOf .nextLine found)
    (unmatched.mergeSort fun a b => decide (a ≤ b))

end ScriptAudit.Suppression
