import ScriptAudit.Number.Reading
import ScriptAudit.Settings.Fault
import ScriptAudit.Settings.Key

/-!
# Admission of values

A value of any type is admitted as the value of a setting if it has the right type for its kind, or
can be brought to it without doubt: the text for a list is divided at its commas, the entries of a
list of texts are taken as their texts, those of a list of numbers are read as doubles.  A truth
value is no integer.

Environment variables hold texts.  For switches and limits they are read first; for lists the text
stays as it is.

## Main definitions

* `ScriptAudit.SettingKind.accept` — the value of a setting, or why it is refused.
* `ScriptAudit.Refusal.toError` — the error that a refusal makes.
* `ScriptAudit.SettingKind.readVariable` — the value that the text of a variable stands for.
* `ScriptAudit.Settings.toTable` — settings as loosely typed entries.
-/

set_option autoImplicit false

namespace ScriptAudit

open Text

/-- Why a value is refused. -/
inductive Refusal where
  /-- The value, as it is shown in the message, has a fault. -/
  | fault (shown : Value) (fault : SettingFault)
  /-- An integer lies beyond all doubles. -/
  | tooLarge
  /-- An integer that is to become a text has too many digits. -/
  | unwritable

/-- The error that a refusal of the value for a key makes.  The message shows the value, so it must
be writable. -/
def Refusal.toError (key : String) : Refusal → LoadError
  | fault shown found => if shown.isWritable then .setting key shown found else .unwritable
  | tooLarge => .tooLarge
  | unwritable => .unwritable

/-- The double that a value stands for: `none` if it stands for no number. -/
def Value.toDouble? : Value → Except Refusal (Option Float)
  | bool b => .ok (some (if b then 1.0 else 0.0))
  | int n =>
    match Number.ofInteger? n with
    | some x => .ok (some x)
    | none => .error .tooLarge
  | float x => .ok (some x)
  | str s => .ok (Number.double? s.toList)
  | _ => .ok none

/-- The doubles that the entries of a list stand for.  The first entry that stands for none decides
the refusal; the whole list is shown in the message. -/
def toDoubles (shown : Value) : List Value → Except Refusal (List Float)
  | [] => .ok []
  | item :: rest =>
    match item.toDouble? with
    | .error refusal => .error refusal
    | .ok none => .error (.fault shown .notNumbers)
    | .ok (some x) =>
      match toDoubles shown rest with
      | .error refusal => .error refusal
      | .ok xs => .ok (x :: xs)

/-- A text given for a list stands for its comma-separated entries. -/
def Value.divided : Value → Value
  | str s => .list ((entries s.toList).map fun entry => .str (String.ofList entry))
  | value => value

namespace SettingKind

/-- Admits a value as the value of a setting of the given kind. -/
def accept : (kind : SettingKind) → Value → Except Refusal kind.Carrier
  | switch, value =>
    match value with
    | .bool b => .ok b
    | _ => .error (.fault value .notSwitch)
  | integer, value =>
    match value with
    | .int n => .ok n
    | _ => .error (.fault value .notInteger)
  | texts, value =>
    match value.divided with
    | .list items =>
      if Value.areWritable items then .ok (items.map Value.text) else .error .unwritable
    | shown => .error (.fault shown .notList)
  | numbers, value =>
    match value.divided with
    | .list items => toDoubles (.list items) items
    | shown => .error (.fault shown .notList)

/-- The words that switch a setting on. -/
def wordsForTrue : List String := ["true", "1", "yes", "on"]

/-- The words that switch a setting off. -/
def wordsForFalse : List String := ["false", "0", "no", "off"]

/-- The value that the text of a variable stands for, under a limit on the digits of integers.  The
words for true and false may be written in any case of their letters, which are all ASCII. -/
def readVariable (limit : Number.DigitLimit) : SettingKind → String → Except SettingFault Value
  | switch, text =>
    let word := String.ofList (text.toList.map Char.toLower)
    if wordsForTrue.contains word then .ok (.bool true)
    else if wordsForFalse.contains word then .ok (.bool false)
    else .error (.notSwitchText text)
  | integer, text =>
    match Number.integer limit text.toList with
    | .ok n => .ok (.int n)
    | .error .malformed => .error (.notIntegerText text)
    | .error (.overlong digits) => .error (.overlongText digits)
  | texts, text => .ok (.str text)
  | numbers, text => .ok (.str text)

/-- The value of a setting as a loosely typed value. -/
def toValue : (kind : SettingKind) → kind.Carrier → Value
  | switch, b => .bool b
  | integer, n => .int n
  | texts, items => .list (items.map .str)
  | numbers, items => .list (items.map .float)

end SettingKind

/-- All settings as loosely typed entries, in the order of the settings. -/
def Settings.toTable (settings : Settings) : List (String × Value) :=
  Key.all.map fun key => (key.name, key.kind.toValue (settings.get key))

end ScriptAudit
