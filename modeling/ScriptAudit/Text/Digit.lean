/-!
# Decimal digits

The decimal digits of all scripts come in runs of ten, each run in order of value.  A run is known
by the code point of its zero.  Numbers may mix digits of several scripts.

## Main definitions

* `ScriptAudit.Text.digitValue?` — the value of a decimal digit.
* `ScriptAudit.Text.isDigit` — the class of decimal digits.
* `ScriptAudit.Text.digitsValue` — the number that a text of digits spells.
-/

set_option autoImplicit false

namespace ScriptAudit.Text

/-- The code points of the digit zero in every script, in increasing order. -/
def zeroDigits : List Nat :=
  [0x0030, 0x0660, 0x06F0, 0x07C0, 0x0966, 0x09E6, 0x0A66, 0x0AE6, 0x0B66, 0x0BE6, 0x0C66, 0x0CE6,
   0x0D66, 0x0DE6, 0x0E50, 0x0ED0, 0x0F20, 0x1040, 0x1090, 0x17E0, 0x1810, 0x1946, 0x19D0, 0x1A80,
   0x1A90, 0x1B50, 0x1BB0, 0x1C40, 0x1C50, 0xA620, 0xA8D0, 0xA900, 0xA9D0, 0xA9F0, 0xAA50, 0xABF0,
   0xFF10, 0x104A0, 0x10D30, 0x11066, 0x110F0, 0x11136, 0x111D0, 0x112F0, 0x11450, 0x114D0,
   0x11650, 0x116C0, 0x11730, 0x118E0, 0x11950, 0x11C50, 0x11D50, 0x11DA0, 0x16A60, 0x16AC0,
   0x16B50, 0x1D7CE, 0x1D7D8, 0x1D7E2, 0x1D7EC, 0x1D7F6, 0x1E140, 0x1E2F0, 0x1E950, 0x1FBF0]

/-- The offset of `n` in the first run of ten that holds it. -/
def offsetInRun? (n : Nat) : List Nat → Option Nat
  | [] => none
  | start :: rest =>
    if n < start then none else if n < start + 10 then some (n - start) else offsetInRun? n rest

/-- The value of a decimal digit of any script. -/
def digitValue? (c : Char) : Option Nat := offsetInRun? c.toNat zeroDigits

/-- Whether a character is a decimal digit of some script. -/
def isDigit (c : Char) : Bool := (digitValue? c).isSome

/-- The number that the digits of a text spell; characters that are no digits count as zeros. -/
def digitsValue (s : List Char) : Nat :=
  s.foldl (fun n c => 10 * n + (digitValue? c).getD 0) 0

end ScriptAudit.Text
