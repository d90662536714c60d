import ScriptAudit.Text.Search
import ScriptAudit.Text.Word

/-!
# Directives

A directive asks for issues to be left out of the report.  It may stand anywhere on a line, usually
in a comment: the word `qube:`, a keyword, and perhaps a colon with a list of checks, which runs up
to the next blank character.

```text
var speed = 42  # qube:ignore:magic-number
# qube:ignore-next-line:print-statement,todo-comment
```

A directive without a list of checks is about all of them.

## Main definitions

* `ScriptAudit.DirectiveKind` — what part of a script a directive is about.
* `ScriptAudit.Directive` — a directive on a line; `covers` tells which checks it is about.
* `ScriptAudit.Directive.findOn` — all directives on a line, from left to right.
-/

set_option autoImplicit false

namespace ScriptAudit

open Text

/-- What part of a script a directive is about. -/
inductive DirectiveKind where
  /-- The whole file. -/
  | file
  /-- Everything from its line on. -/
  | below
  /-- The next function. -/
  | function
  /-- The beginning of a block. -/
  | blockStart
  /-- The end of a block. -/
  | blockEnd
  /-- The next line. -/
  | nextLine
  /-- Its own line. -/
  | line
  deriving DecidableEq

namespace DirectiveKind

/-- All kinds of directives. -/
def all : List DirectiveKind := [file, below, function, blockStart, blockEnd, nextLine, line]

/-- The keyword of a kind of directive. -/
def keyword : DirectiveKind → String
  | file => "ignore-file"
  | below => "ignore-below"
  | function => "ignore-function"
  | blockStart => "ignore-block-start"
  | blockEnd => "ignore-block-end"
  | nextLine => "ignore-next-line"
  | line => "ignore"

/-- The kind of directive with the given keyword. -/
def ofKeyword? (keyword : List Char) : Option DirectiveKind :=
  all.find? (·.keyword.toList == keyword)

end DirectiveKind

/-- A list of check identifiers covers a check if it names it, and every check if it is empty. -/
def covers (ids : List String) (id : String) : Bool := ids.isEmpty || ids.contains id

/-- A directive on a line. -/
structure Directive where
  /-- What part of the script it is about. -/
  kind : DirectiveKind
  /-- The number of its line. -/
  line : Int
  /-- The identifiers of the checks that it is about; none for all checks. -/
  ids : List String
  deriving DecidableEq

namespace Directive

/-- The word that announces a directive. -/
def marker : List Char := "qube:".toList

/-- Whether a character belongs to the keyword of a directive. -/
def isKeywordChar (c : Char) : Bool := isWordChar c || c == '-'

/-- The check identifiers in a comma-separated list. -/
def idsOf (list : List Char) : List String := (entries list).map String.ofList

/-- Recognises a directive on the given line.  The keyword is everything up to the first character
that cannot belong to one, so `ignore` is not found in `ignore-nothing`. -/
def recognise (line : Int) : Recogniser Directive := fun _ text =>
  match marker.isPrefixOf? text with
  | none => none
  | some rest =>
    (DirectiveKind.ofKeyword? (rest.takeWhile isKeywordChar)).map fun kind =>
      match rest.dropWhile isKeywordChar with
      | ':' :: list =>
        (⟨kind, line, idsOf (list.takeWhile (!isBlank ·))⟩, list.dropWhile (!isBlank ·))
      | after => (⟨kind, line, []⟩, after)

/-- All directives on a line, from left to right. -/
def findOn (line : Int) (text : List Char) : List Directive := findAll (recognise line) text

/-- Whether a directive is about a check. -/
def covers (directive : Directive) (id : String) : Bool := ScriptAudit.covers directive.ids id

end Directive

end ScriptAudit
