import ScriptAudit.Script.Declaration

/-!
# Function signatures

What the first line of a function tells: its name, its parameters, whether it states a return type,
and the statement that may follow its colon on the same line.

The parameter list begins at the first opening parenthesis and ends where the brackets opened since
then are closed again.  Round, square and curly brackets are interchangeable.  A list that is never
closed runs to the end of the line.

## Main definitions

* `ScriptAudit.Signature.name` — the name between the keyword and the parameter list.
* `ScriptAudit.Signature.parameters` — the text of the parameter list.
* `ScriptAudit.Signature.parameterCount` — its entries at the top level.
* `ScriptAudit.Signature.hasReturnType` — whether an arrow states a return type.
* `ScriptAudit.Signature.statement?` — the statement on the line of the signature.

## Implementation notes

The parameter list is delimited on the line as written, brackets inside string literals included,
and its literals are emptied afterwards.  The depth at which commas are counted may therefore sink
below zero, and is an integer.
-/

set_option autoImplicit false

namespace ScriptAudit.Signature

open Text Script

/-- Whether a character opens a bracket. -/
def isOpening (c : Char) : Bool := c == '(' || c == '[' || c == '{'

/-- Whether a character closes a bracket. -/
def isClosing (c : Char) : Bool := c == ')' || c == ']' || c == '}'

/-- The name of the function: the text between the keyword and the parameter list, or the colon
where there is no parameter list.  A text that declares no function has the empty name. -/
def name (signature : List Char) : List Char :=
  match functionHeads.findSome? (·.isPrefixOf? (trim signature)) with
  | none => []
  | some rest => trim (rest.takeWhile (· != (if rest.contains '(' then '(' else ':')))

/-- Divides the text behind an opening bracket at the bracket that closes it, `depth` further ones
being open: what stands before it, and what follows it if it is there at all. -/
def atClosing : (depth : Nat) → List Char → List Char × Option (List Char)
  | _, [] => ([], none)
  | depth, c :: rest =>
    if isOpening c then
      let (inside, after) := atClosing (depth + 1) rest
      (c :: inside, after)
    else if isClosing c then
      match depth with
      | 0 => ([], some rest)
      | depth + 1 =>
        let (inside, after) := atClosing depth rest
        (c :: inside, after)
    else
      let (inside, after) := atClosing depth rest
      (c :: inside, after)

/-- The parameter list of a text and what follows it; `none` if no parenthesis opens one. -/
def parameterList? (text : List Char) : Option (List Char × Option (List Char)) :=
  match text.dropWhile (· != '(') with
  | [] => none
  | _ :: rest => some (atClosing 0 rest)

/-- The text of the parameter list, empty if there is none. -/
def parameters (signature : List Char) : List Char :=
  match parameterList? signature with
  | some (inside, _) => inside
  | none => []

/-- The number of commas outside all brackets, `depth` being the number of brackets open so far. -/
def topLevelCommas : (depth : Int) → List Char → Nat
  | _, [] => 0
  | depth, c :: rest =>
    if isOpening c then topLevelCommas (depth + 1) rest
    else if isClosing c then topLevelCommas (depth - 1) rest
    else if c == ',' && depth == 0 then topLevelCommas depth rest + 1
    else topLevelCommas depth rest

/-- The number of parameters: the entries between top-level commas, a trailing comma not beginning
another one. -/
def parameterCount (signature : List Char) : Nat :=
  let text := code (parameters signature)
  if isBlankText text then 0
  else if text.getLast? == some ',' then topLevelCommas 0 text
  else topLevelCommas 0 text + 1

/-- Whether the signature states a return type. -/
def hasReturnType (signature : List Char) : Bool := occursIn "->".toList signature

/-- The statement that follows the colon of the signature on the same line, if there is one. -/
def statement? (signature : List Char) : Option (List Char) :=
  match parameterList? (code (trim signature)) with
  | some (_, some after) =>
    let statement := trim ((after.dropWhile (· != ':')).drop 1)
    if statement.isEmpty then none else some statement
  | _ => none

end ScriptAudit.Signature
