import ScriptAudit.Number.Double

/-!
# Decimal text of doubles

A double is written with the fewest digits that read back as the same double, the nearest such
decimal where several have this many digits, and of two equally near ones the even one.

Numbers from `0.0001` up to, but excluding, `10^16` are written positionally and always have a
fraction, all others with an exponent of at least two digits.

## Main definitions

* `ScriptAudit.Number.Decimal` — the number `digits · 10^exponent`.
* `ScriptAudit.Number.shortest` — the shortest decimal that reads back.
* `ScriptAudit.Number.text` — the text of a double.
* `ScriptAudit.Number.roundPlaces` — a double rounded to a number of decimal places.
* `ScriptAudit.Number.fixed` — the text of a double with a fixed number of decimal places.
-/

set_option autoImplicit false

namespace ScriptAudit.Number

/-- The number `digits · 10^exponent`. -/
structure Decimal where
  /-- The significant digits, read as one natural number. -/
  digits : Nat
  /-- The power of ten that the last digit counts. -/
  exponent : Int
  deriving DecidableEq

/-- A positive fraction. -/
structure Fraction where
  /-- The numerator. -/
  num : Nat
  /-- The denominator. -/
  den : Nat

/-- The fraction `n · base^exponent`. -/
def Fraction.scaled (n base : Nat) (exponent : Int) : Fraction :=
  if 0 ≤ exponent then ⟨n * Nat.pow base exponent.toNat, 1⟩
  else ⟨n, Nat.pow base (-exponent).toNat⟩

/-- Whether one fraction is below another. -/
def Fraction.lt (a b : Fraction) : Bool := decide (a.num * b.den < b.num * a.den)

/-- Whether one fraction is at most another. -/
def Fraction.le (a b : Fraction) : Bool := decide (a.num * b.den ≤ b.num * a.den)

/-- The fraction that a decimal stands for. -/
def Decimal.fraction (d : Decimal) : Fraction := .scaled d.digits 10 d.exponent

/-- The largest `k` with `10^k ≤ v`.  The binary logarithm gives it up to one. -/
def decimalExponent (v : Fraction) : Int :=
  let guess := binaryExponent v.num v.den * 30103 / 100000
  if v.lt (.scaled 1 10 guess) then guess - 1
  else if Fraction.le (.scaled 1 10 (guess + 1)) v then guess + 1
  else guess

/-- The numbers that round to the double `mantissa · 2^exponent` lie between the midpoints to its
neighbours, which belong to it if the mantissa is even.  Below a power of two the neighbour is only
half as far away. -/
def readsBack (mantissa : Nat) (exponent : Int) (d : Decimal) : Bool :=
  let below := if mantissa = octave ∧ -1074 < exponent then 1 else 2
  let low := Fraction.scaled (4 * mantissa - below) 2 (exponent - 2)
  let high := Fraction.scaled (4 * mantissa + 2) 2 (exponent - 2)
  if mantissa % 2 = 0 then low.le d.fraction && d.fraction.le high
  else low.lt d.fraction && d.fraction.lt high

/-- The decimal on the grid `10^exponent` that reads back as the double and is nearest to it, if any
decimal on this grid reads back. -/
def onGrid? (mantissa : Nat) (binary : Int) (exponent : Int) : Option Decimal :=
  let v := Fraction.scaled mantissa 2 binary
  let num := if 0 ≤ exponent then v.num else v.num * Nat.pow 10 (-exponent).toNat
  let den := if 0 ≤ exponent then v.den * Nat.pow 10 exponent.toNat else v.den
  let lower : Decimal := ⟨num / den, exponent⟩
  let upper : Decimal := ⟨num / den + 1, exponent⟩
  let nearer : Decimal := ⟨divHalfEven num den, exponent⟩
  if readsBack mantissa binary lower && readsBack mantissa binary upper then some nearer
  else if readsBack mantissa binary lower then some lower
  else if readsBack mantissa binary upper then some upper
  else none

/-- The shortest decimal that reads back as the double `mantissa · 2^exponent`, for a positive
mantissa.  Seventeen digits always suffice. -/
def shortest (mantissa : Nat) (binary : Int) : Decimal :=
  let leading := decimalExponent (.scaled mantissa 2 binary)
  ((List.range 17).findSome? fun (more : Nat) => onGrid? mantissa binary (leading - more)).getD
    ⟨0, 0⟩

/-- The digits of a natural number without the zeros at their end, and how many there were. -/
def stripZeros (digits : List Char) : List Char × Nat :=
  let kept := (digits.reverse.dropWhile (· == '0')).reverse
  (kept, digits.length - kept.length)

/-- The exponent mark with a sign and at least two digits. -/
def exponentText (exponent : Int) : List Char :=
  let digits := Nat.toDigits 10 exponent.natAbs
  let padded := if digits.length < 2 then '0' :: digits else digits
  'e' :: (if exponent < 0 then '-' else '+') :: padded

/-- Lays out significant digits without trailing zeros, `point` being the position of the decimal
point relative to the first of them. -/
def layOut (digits : List Char) (point : Int) : List Char :=
  if point ≤ -4 ∨ 16 < point then
    match digits with
    | [] => ['0']
    | [d] => d :: exponentText (point - 1)
    | d :: more => d :: '.' :: more ++ exponentText (point - 1)
  else if point ≤ 0 then '0' :: '.' :: List.replicate (-point).toNat '0' ++ digits
  else if digits.length ≤ point.toNat then
    digits ++ List.replicate (point.toNat - digits.length) '0' ++ ['.', '0']
  else digits.take point.toNat ++ '.' :: digits.drop point.toNat

/-- The text of a decimal. -/
def Decimal.text (d : Decimal) : List Char :=
  let (digits, dropped) := stripZeros (Nat.toDigits 10 d.digits)
  layOut digits (digits.length + dropped + d.exponent)

/-- The text of a double. -/
def text (x : Float) : String :=
  String.ofList <|
    match parts x with
    | .nan => "nan".toList
    | .infinite negative => (if negative then ['-'] else []) ++ "inf".toList
    | .finite negative mantissa exponent =>
      (if negative then ['-'] else []) ++
        if mantissa = 0 then "0.0".toList else (shortest mantissa exponent).text

/-- The multiple of `10^-places` nearest to a finite magnitude, counted in that unit. -/
def inUnits (places : Nat) (mantissa : Nat) (exponent : Int) : Nat :=
  let v := Fraction.scaled mantissa 2 exponent
  divHalfEven (v.num * Nat.pow 10 places) v.den

/-- The double rounded to `places` decimal places; a half goes to the even neighbour, and what is
not finite stays. -/
def roundPlaces (places : Nat) (x : Float) : Float :=
  match parts x with
  | .finite negative mantissa exponent =>
    nearest negative (inUnits places mantissa exponent) (Nat.pow 10 places)
  | _ => x

/-- The text of a double with exactly `places` decimal places. -/
def fixed (places : Nat) (x : Float) : String :=
  match parts x with
  | .finite negative mantissa exponent =>
    let digits := Nat.toDigits 10 (inUnits places mantissa exponent)
    let padded := List.replicate (places + 1 - digits.length) '0' ++ digits
    let whole := padded.take (padded.length - places)
    let fraction := padded.drop (padded.length - places)
    String.ofList
      ((if negative then ['-'] else []) ++ whole ++ (if places = 0 then [] else '.' :: fraction))
  | _ => text x

end ScriptAudit.Number
