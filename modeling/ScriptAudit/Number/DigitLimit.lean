/-!
# A limit on the digits of integers

The decimal text of an integer takes time to read and to write that grows faster than its length.
Texts of integers therefore have a limit on their digits; integers themselves have none.

## Main definitions

* `ScriptAudit.Number.DigitLimit` — how many digits the text of an integer may have.
* `ScriptAudit.Number.DigitLimit.allows`, `ScriptAudit.Number.DigitLimit.admits` — whether so many
  digits may be read, and whether an integer may be written.
* `ScriptAudit.Number.digitLimit` — the limit that is in force.
-/

set_option autoImplicit false

namespace ScriptAudit.Number

/-- How many digits the decimal text of an integer may have; `none` allows any number of them. -/
abbrev DigitLimit := Option Nat

/-- The most digits that are allowed. -/
def mostDigits : Nat := 4300

/-- The limit that is in force. -/
def digitLimit : DigitLimit := some mostDigits

namespace DigitLimit

/-- Whether a text of so many digits may be read. -/
def allows : DigitLimit → (digits : Nat) → Bool
  | none, _ => true
  | some most, digits => decide (digits ≤ most)

/-- Whether an integer may be written: its decimal text has at most `k` digits if and only if it
lies strictly between `-10^k` and `10^k`. -/
def admits : DigitLimit → Int → Bool
  | none, _ => true
  | some most, n => decide (n.natAbs < Nat.pow 10 most)

end DigitLimit

end ScriptAudit.Number
