/-!
# Indentation

The width of the blanks before a line, a tab counting as four columns, and the level that this
width stands for.

## Main definitions

* `ScriptAudit.Script.indentWidth` — the columns before the first other character.
* `ScriptAudit.Script.indentLevel` — how many whole units of indentation these are.
-/

set_option autoImplicit false

namespace ScriptAudit.Script

/-- The number of columns of a tab, and of one level of indentation. -/
def indentUnit : Nat := 4

/-- The width of the spaces and tabs at the start of a line, in columns. -/
def indentWidth : List Char → Nat
  | ' ' :: rest => 1 + indentWidth rest
  | '\t' :: rest => indentUnit + indentWidth rest
  | _ => 0

/-- The number of whole levels in the indentation of a line. -/
def indentLevel (line : List Char) : Nat := indentWidth line / indentUnit

end ScriptAudit.Script
