import ScriptAudit.Number.DigitLimit
import ScriptAudit.Number.Shortest
import ScriptAudit.Settings.Moment
import ScriptAudit.Text.Quoted

/-!
# Loosely typed values

Settings come from documents, from variables and from callers, and may at first be of any type.

## Main definitions

* `ScriptAudit.Value` — a value of any type.
* `ScriptAudit.Value.text` — a value as messages show it; `ScriptAudit.Value.quoted` — the same
  inside a list or a table, where texts are quoted.
* `ScriptAudit.Value.isWritable` — whether the integers in a value may be written.
-/

set_option autoImplicit false

namespace ScriptAudit

/-- A value of any type. -/
inductive Value where
  /-- No value. -/
  | null
  /-- A truth value. -/
  | bool (b : Bool)
  /-- An integer. -/
  | int (n : Int)
  /-- A double. -/
  | float (x : Float)
  /-- A text. -/
  | str (s : String)
  /-- A date or time. -/
  | moment (m : Moment)
  /-- A list. -/
  | list (items : List Value)
  /-- A table, in the order in which its entries were made. -/
  | table (entries : List (String × Value))

namespace Value

mutual

/-- A value as it is shown inside a list or a table. -/
def quoted : Value → String
  | null => "None"
  | bool b => if b then "True" else "False"
  | int n => toString n
  | float x => Number.text x
  | str s => Text.quoted s
  | moment m => m.construction
  | list items => "[" ++ ", ".intercalate (quotedItems items) ++ "]"
  | table entries =>
    String.singleton '{' ++ ", ".intercalate (quotedEntries entries) ++ String.singleton '}'

/-- The items of a list as they are shown. -/
def quotedItems : List Value → List String
  | [] => []
  | item :: rest => quoted item :: quotedItems rest

/-- The entries of a table as they are shown. -/
def quotedEntries : List (String × Value) → List String
  | [] => []
  | (key, value) :: rest => (Text.quoted key ++ ": " ++ quoted value) :: quotedEntries rest

end

mutual

/-- Whether every integer in a value may be written under the limit in force.  A message cannot show
any other value. -/
def isWritable : Value → Bool
  | int n => Number.digitLimit.admits n
  | list items => areWritable items
  | table entries => hasWritableEntries entries
  | _ => true

/-- Whether all items of a list are writable. -/
def areWritable : List Value → Bool
  | [] => true
  | item :: rest => isWritable item && areWritable rest

/-- Whether the values of all entries of a table are writable. -/
def hasWritableEntries : List (String × Value) → Bool
  | [] => true
  | (_, value) :: rest => isWritable value && hasWritableEntries rest

end

/-- Texts are always writable. -/
theorem areWritable_map_str (texts : List String) : areWritable (texts.map str) = true := by
  induction texts with
  | nil => rfl
  | cons text rest ih => simp [areWritable, isWritable, ih]

/-- A value as messages show it. -/
def text : Value → String
  | str s => s
  | moment m => m.text
  | value => value.quoted

end Value

end ScriptAudit
