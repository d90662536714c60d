/-!
# Doubles as exact numbers

A finite double is `m · 2^q` for a natural number `m` below `2^53` and an exponent `q` of at least
`-1074`.  This module takes a double apart in this form, and finds the double nearest to a fraction
of natural numbers.  All arithmetic is exact.

## Main definitions

* `ScriptAudit.Number.divHalfEven` — the integer nearest to a quotient, a half going to the even
  one.
* `ScriptAudit.Number.Parts` — a double taken apart; `ScriptAudit.Number.parts` takes it apart.
* `ScriptAudit.Number.nearest` — the double nearest to a fraction, with the given sign.

## Implementation notes

The bits of a positive finite double are `(q + 1074) · 2^52 + m`, for normal and subnormal numbers
alike, so rounding up to the next power of two needs no case of its own.
-/

set_option autoImplicit false

namespace ScriptAudit.Number

/-- The integer nearest to `num / den`; a half goes to the even neighbour. -/
def divHalfEven (num den : Nat) : Nat :=
  let quotient := num / den
  let twice := 2 * (num % den)
  if twice < den then quotient
  else if den < twice then quotient + 1
  else quotient + quotient % 2

/-- A double taken apart. -/
inductive Parts where
  /-- Not a number. -/
  | nan
  /-- An infinity with its sign. -/
  | infinite (negative : Bool)
  /-- The number `mantissa · 2^exponent` with its sign. -/
  | finite (negative : Bool) (mantissa : Nat) (exponent : Int)
  deriving DecidableEq

/-- The bit of the sign, `2^63`. -/
def signBit : Nat := 0x8000000000000000

/-- The number of doubles with the same sign and exponent, `2^52`. -/
def octave : Nat := 0x10000000000000

/-- Takes a double apart. -/
def parts (x : Float) : Parts :=
  let bits := x.toBits.toNat
  let negative := decide (signBit ≤ bits)
  let biased : Nat := bits / octave % 2048
  let fraction := bits % octave
  if biased = 2047 then
    if fraction = 0 then .infinite negative else .nan
  else if biased = 0 then .finite negative fraction (-1074)
  else .finite negative (fraction + octave) ((biased : Int) - 1075)

/-- The double with the given sign and the given bits below the sign. -/
def withSign (negative : Bool) (bits : Nat) : Float :=
  Float.ofBits (UInt64.ofNat (if negative then bits + signBit else bits))

/-- The bits of infinity. -/
def infinityBits : Nat := 2047 * octave

/-- The largest `k` with `2^k ≤ num / den`, for positive `num` and `den`. -/
def binaryExponent (num den : Nat) : Int :=
  let guess : Int := (num.log2 : Int) - den.log2
  let tooLarge :=
    if 0 ≤ guess then num < den * Nat.pow 2 guess.toNat else num * Nat.pow 2 (-guess).toNat < den
  if tooLarge then guess - 1 else guess

/-- The bits of the non-negative double nearest to `num / den`, a tie going to the even mantissa;
beyond the largest finite double, those of infinity. -/
def nearestBits (num den : Nat) : Nat :=
  if num = 0 then 0
  else
    let unit := binaryExponent num den - 52
    let exponent := if unit < -1074 then -1074 else unit
    let mantissa :=
      if 0 ≤ exponent then divHalfEven num (den * Nat.pow 2 exponent.toNat)
      else divHalfEven (num * Nat.pow 2 (-exponent).toNat) den
    Nat.min ((exponent + 1074).toNat * octave + mantissa) infinityBits

/-- The double nearest to `num / den`, with the given sign. -/
def nearest (negative : Bool) (num den : Nat) : Float := withSign negative (nearestBits num den)

/-- The double nearest to an integer; `none` if the integer lies beyond all finite doubles. -/
def ofInteger? (n : Int) : Option Float :=
  let bits := nearestBits n.natAbs 1
  if bits = infinityBits then none else some (withSign (decide (n < 0)) bits)

end ScriptAudit.Number
