import ScriptAudit.Text.Search
import ScriptAudit.Text.Word

/-!
# Decision points

How many decisions a line of code adds to the complexity of its function: one for a branching
keyword at its start, one for every further `if`, which is then a conditional expression, and one
for every conjunction and disjunction, whether a word or a doubled sign.

## Main definitions

* `ScriptAudit.Script.countWord` — how often a word stands free in a text.
* `ScriptAudit.Script.decisions` — the decision points of a line of code.
* `ScriptAudit.Script.opensMatch` — whether a line of code opens a `match` block.
-/

set_option autoImplicit false

namespace ScriptAudit.Script

open Text

/-- Whether a text begins with the given word and the word ends there. -/
def startsWithWord (word text : List Char) : Bool :=
  match word.isPrefixOf? text with
  | some rest => !startsWithWordChar rest
  | none => false

/-- Recognises a word that no word character touches from either side. -/
def freeWord (word : List Char) : Recogniser Unit := fun before text =>
  if before.any isWordChar || !startsWithWord word text then none
  else some ((), text.drop word.length)

/-- How often a word stands free in a text. -/
def countWord (word text : List Char) : Nat := (findAll (freeWord word) text).length

/-- Recognises a pair of equal signs. -/
def doubledSign (sign : Char) : Recogniser Unit := fun _ text =>
  ([sign, sign].isPrefixOf? text).map fun rest => ((), rest)

/-- How many pairs of the given sign a text holds, taken from the left. -/
def countPairs (sign : Char) (text : List Char) : Nat := (findAll (doubledSign sign) text).length

/-- The keywords that open a branch. -/
def branchKeywords : List (List Char) :=
  ["if".toList, "elif".toList, "for".toList, "while".toList, "match".toList]

/-- The decision points of a line of code. -/
def decisions (code : List Char) : Nat :=
  let leading := if branchKeywords.any (startsWithWord · code) then 1 else 0
  let leadingIf := if startsWithWord "if".toList code then 1 else 0
  leading + (countWord "if".toList code - leadingIf)
    + (countWord "and".toList code + countPairs '&' code)
    + (countWord "or".toList code + countPairs '|' code)

/-- Whether a line of code opens a `match` block: the keyword, followed by a space or by an opening
parenthesis. -/
def opensMatch (code : List Char) : Bool :=
  "match ".toList.isPrefixOf code || "match(".toList.isPrefixOf code

end ScriptAudit.Script
