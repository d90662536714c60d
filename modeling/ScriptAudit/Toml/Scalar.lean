import ScriptAudit.Number.Reading
import ScriptAudit.Settings.Value
import ScriptAudit.Toml.Text

/-!
# Numbers and moments of a document

Numbers, dates and times as a TOML document writes them.  Digits are ASCII here, an underscore may
stand between two of them, and no number begins with a zero that it does not need.  Integers in base
ten have a limit on their digits; those in other bases have none.

## Main definitions

* `ScriptAudit.Toml.radixInteger`, `ScriptAudit.Toml.decimalNumber` — read an integer or a double.
* `ScriptAudit.Toml.specialNumber` — reads an infinity or what is not a number.
* `ScriptAudit.Toml.moment` — reads a date, a time of day, or both.
-/

set_option autoImplicit false

namespace ScriptAudit.Toml

open Number

/-! ## Numbers -/

/-- Divides off the digits at the start of a text, and single underscores that a digit follows. -/
def moreDigits (isDigit : Char → Bool) : List Char → List Char × List Char
  | '_' :: c :: rest =>
    if isDigit c then
      let (digits, after) := moreDigits isDigit rest
      (c :: digits, after)
    else ([], '_' :: c :: rest)
  | c :: rest =>
    if isDigit c then
      let (digits, after) := moreDigits isDigit rest
      (c :: digits, after)
    else ([], c :: rest)
  | [] => ([], [])

/-- Reads a run of digits, without the underscores between them. -/
def digitRun (isDigit : Char → Bool) : Reader (List Char)
  | c :: rest =>
    if isDigit c then
      let (digits, after) := moreDigits isDigit rest
      some (c :: digits, after)
    else none
  | [] => none

/-- The number that digits spell in a base. -/
def valueInBase (base : Nat) (digits : List Char) : Nat :=
  digits.foldl (fun n c => base * n + ((hexValue? [c]).getD 0)) 0

/-- Reads an integer in base sixteen, eight or two. -/
def radixInteger : Reader Value
  | '0' :: mark :: rest =>
    let read (base : Nat) (isDigit : Char → Bool) :=
      (digitRun isDigit rest).map fun (digits, after) =>
        (Value.int (valueInBase base digits), after)
    if mark = 'x' then read 16 fun c => (hexValue? [c]).isSome
    else if mark = 'b' then read 2 fun c => c == '0' || c == '1'
    else if mark = 'o' then read 8 fun c => '0' ≤ c && c ≤ '7'
    else none
  | _ => none

/-- Reads the whole part of a decimal number. -/
def wholePart : Reader (List Char)
  | '0' :: rest => some (['0'], rest)
  | text => digitRun Char.isDigit text

/-- Divides off a fraction: a point and digits. -/
def fractionPart : List Char → List Char × List Char
  | '.' :: rest => (digitRun Char.isDigit rest).getD ([], '.' :: rest)
  | text => ([], text)

/-- Divides off an exponent: a mark, perhaps a sign, and digits. -/
def exponentPart : List Char → Option Int × List Char
  | [] => (none, [])
  | mark :: rest =>
    let (negative, digits) := sign rest
    if mark == 'e' || mark == 'E' then
      match digitRun Char.isDigit digits with
      | some (run, after) =>
        let n : Int := valueInBase 10 run
        (some (if negative then -n else n), after)
      | none => (none, mark :: rest)
    else (none, mark :: rest)

/-- Reads a decimal number: a double if it has a fraction or an exponent, and an integer else. -/
def decimalNumber (text : List Char) : Except Fault (Value × List Char) :=
  let (negative, unsigned) := sign text
  match wholePart unsigned with
  | none => .error .malformed
  | some (whole, afterWhole) =>
    let (fraction, afterFraction) := fractionPart afterWhole
    let (exponent, after) := exponentPart afterFraction
    if !(fraction.isEmpty && exponent.isNone) then
      let digits := valueInBase 10 (whole ++ fraction)
      .ok (.float (ofDecimal negative digits (exponent.getD 0 - fraction.length)), after)
    else if digitLimit.allows whole.length then
      let n : Int := valueInBase 10 whole
      .ok (.int (if negative then -n else n), after)
    else .error (.overlong whole.length)

/-- Reads an infinity or what is not a number, perhaps with a sign. -/
def specialNumber : Reader Value := fun text =>
  let (negative, rest) := sign text
  if "inf".toList.isPrefixOf rest || "nan".toList.isPrefixOf rest then
    (doubleWord? negative (rest.take 3)).map fun x => (.float x, rest.drop 3)
  else none

/-! ## Dates and times -/

/-- Reads a number of exactly so many digits, between two bounds. -/
def fixedNumber (width low high : Nat) : Reader Nat := fun text =>
  let digits := text.take width
  let n := valueInBase 10 digits
  if digits.length = width ∧ digits.all Char.isDigit ∧ low ≤ n ∧ n ≤ high then
    some (n, text.drop width)
  else none

/-- Reads a given character and then a number. -/
def markedNumber (mark : Char) (width low high : Nat) : Reader Nat
  | c :: rest => if c = mark then fixedNumber width low high rest else none
  | [] => none

/-- Reads a date that exists in the calendar. -/
def day : Reader Day := fun text => do
  let (year, text) ← fixedNumber 4 0 9999 text
  let (month, text) ← markedNumber '-' 2 1 12 text
  let (day, text) ← markedNumber '-' 2 1 31 text
  let found : Day := ⟨year, month, day⟩
  if found.exists then some (found, text) else none

/-- Divides off parts of a second: a point and digits, of which six count. -/
def micros : List Char → Nat × List Char
  | '.' :: rest =>
    let digits := rest.takeWhile Char.isDigit
    if digits.isEmpty then (0, '.' :: rest)
    else
      let six := digits.take 6
      (valueInBase 10 (six ++ List.replicate (6 - six.length) '0'), rest.dropWhile Char.isDigit)
  | text => (0, text)

/-- Reads a time of day. -/
def clock : Reader Clock := fun text => do
  let (hour, text) ← fixedNumber 2 0 23 text
  let (minute, text) ← markedNumber ':' 2 0 59 text
  let (second, text) ← markedNumber ':' 2 0 59 text
  let (micro, text) := micros text
  some (⟨hour, minute, second, micro⟩, text)

/-- Divides off an offset from universal time, in minutes. -/
def offset : List Char → Option Int × List Char
  | [] => (none, [])
  | mark :: rest =>
    if mark = 'Z' ∨ mark = 'z' then (some 0, rest)
    else if mark = '+' ∨ mark = '-' then
      let read := do
        let (hours, text) ← fixedNumber 2 0 23 rest
        let (minutes, text) ← markedNumber ':' 2 0 59 text
        let span : Int := (60 * hours + minutes : Nat)
        some (if mark = '-' then -span else span, text)
      match read with
      | some (minutes, after) => (some minutes, after)
      | none => (none, mark :: rest)
    else (none, mark :: rest)

/-- Reads a date, and the time of day behind it if there is one. -/
def dateTime : Reader Moment := fun text =>
  (day text).map fun (found, after) =>
    match after with
    | mark :: rest =>
      if mark = 'T' ∨ mark = 't' ∨ mark = ' ' then
        match clock rest with
        | some (time, afterTime) =>
          let (zone, afterZone) := offset afterTime
          (.dateTime found time zone, afterZone)
        | none => (.date found, after)
      else (.date found, after)
    | [] => (.date found, after)

/-- Reads a date, a time of day, or both. -/
def moment : Reader Moment := fun text =>
  dateTime text <|> (clock text).map fun (time, after) => (.time time, after)

end ScriptAudit.Toml
