import ScriptAudit.Number.DigitLimit
import ScriptAudit.Number.Double
import ScriptAudit.Text.Blank
import ScriptAudit.Text.Digit

/-!
# Reading numbers

Integers and doubles are read from a text with blanks around it.  Digits of any script count, a
single underscore may stand between two digits, and a sign may stand in front.  A double may have a
fraction and an exponent, or be one of the words for infinity and for "not a number".

## Main definitions

* `ScriptAudit.Number.integer` — reads an integer whose digits stay within a limit.
* `ScriptAudit.Number.double?` — reads a double, correctly rounded.

## Implementation notes

The four ASCII separators `U+001C`–`U+001F` are blank elsewhere, but are not skipped around numbers.
-/

set_option autoImplicit false

namespace ScriptAudit.Number

open Text

/-- Whether a character may stand around a number. -/
def isNumberBlank (c : Char) : Bool := isBlank c && !(0x1C ≤ c.toNat && c.toNat ≤ 0x1F)

/-- The text without the blanks around a number. -/
def trimNumber (s : List Char) : List Char :=
  ((s.dropWhile isNumberBlank).reverse.dropWhile isNumberBlank).reverse

/-- Divides off a sign; the flag tells whether it is a minus. -/
def sign : List Char → Bool × List Char
  | '-' :: rest => (true, rest)
  | '+' :: rest => (false, rest)
  | text => (false, text)

/-- The text without its underscores, each of which must stand between two digits. -/
def dropUnderscores? : (afterDigit : Bool) → List Char → Option (List Char)
  | _, [] => some []
  | afterDigit, '_' :: rest =>
    if afterDigit && rest.head?.any isDigit then dropUnderscores? false rest else none
  | _, c :: rest => (dropUnderscores? (isDigit c) rest).map (c :: ·)

/-- Why a text cannot be read as an integer. -/
inductive IntegerFault where
  /-- It does not spell an integer. -/
  | malformed
  /-- It has more digits than the limit allows. -/
  | overlong (digits : Nat)
  deriving DecidableEq

/-- Whether a character may stand in a run of digits. -/
def isRunChar (c : Char) : Bool := isDigit c || c == '_'

/-- Reads an integer.  Its run of digits is looked at before what stands behind it, so too many
digits are reported even if something else follows them. -/
def integer (limit : DigitLimit) (text : List Char) : Except IntegerFault Int :=
  let (negative, unsigned) := sign (trimNumber text)
  match dropUnderscores? false (unsigned.takeWhile isRunChar) with
  | none => .error .malformed
  | some digits =>
    if !limit.allows digits.length then .error (.overlong digits.length)
    else if digits.isEmpty || !unsigned.all isRunChar then .error .malformed
    else if negative then .ok (-(digitsValue digits : Int))
    else .ok (digitsValue digits)

/-- Reads the exponent of a decimal number: nothing, or a mark, perhaps a sign, and digits. -/
def exponent? : List Char → Option Int
  | [] => some 0
  | mark :: rest =>
    let (negative, digits) := sign rest
    if (mark == 'e' || mark == 'E') && !digits.isEmpty && digits.all isDigit then
      some (if negative then -(digitsValue digits : Int) else digitsValue digits)
    else none

/-- Reads digits, perhaps with a point among or around them, and perhaps an exponent: the number is
the first component times ten to the power of the second. -/
def decimal? (text : List Char) : Option (Nat × Int) :=
  let whole := text.takeWhile isDigit
  let rest := text.dropWhile isDigit
  let (fraction, tail) :=
    match rest with
    | '.' :: more => (more.takeWhile isDigit, more.dropWhile isDigit)
    | _ => ([], rest)
  if whole.isEmpty && fraction.isEmpty then none
  else (exponent? tail).map fun e => (digitsValue (whole ++ fraction), e - fraction.length)

/-- The double nearest to `digits · 10^exponent`.  Exponents far out of range are answered without
computing the power. -/
def ofDecimal (negative : Bool) (digits : Nat) (exponent : Int) : Float :=
  if digits = 0 then withSign negative 0
  else if 400 < exponent then withSign negative infinityBits
  else if exponent < -400 - (digits.log2 : Int) then withSign negative 0
  else if 0 ≤ exponent then nearest negative (digits * Nat.pow 10 exponent.toNat) 1
  else nearest negative digits (Nat.pow 10 (-exponent).toNat)

/-- The words for infinity. -/
def infinityWords : List (List Char) := ["inf".toList, "infinity".toList]

/-- The double that a word stands for, in any case of its letters. -/
def doubleWord? (negative : Bool) (word : List Char) : Option Float :=
  let lower := word.map Char.toLower
  if infinityWords.contains lower then some (withSign negative infinityBits)
  else if lower == "nan".toList then some (withSign negative (infinityBits + octave / 2))
  else none

/-- Reads a double. -/
def double? (text : List Char) : Option Float :=
  match dropUnderscores? false (trimNumber text) with
  | none => none
  | some trimmed =>
    let (negative, rest) := sign trimmed
    match decimal? rest with
    | some (digits, exponent) => some (ofDecimal negative digits exponent)
    | none => doubleWord? negative rest

end ScriptAudit.Number
