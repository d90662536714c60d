import Mathlib.Tactic.Ring
import ScriptAudit.Number.Double

/-!
# Integers beyond all doubles

An integer has a nearest double unless it lies so far out that the nearest one would be infinite.
This begins at `2^1024 - 2^970`, half a step above the largest finite double; the half goes to
infinity, because the largest mantissa is odd.

## Main results

* `ScriptAudit.Number.succ_le_divHalfEven_iff` — where rounding goes up from an odd number.
* `ScriptAudit.Number.nearestBits_one` — the bits of the double nearest to an integer.
* `ScriptAudit.Number.ofInteger?_eq_none_iff` — the integers without a double.
-/

set_option relaxedAutoImplicit false
set_option autoImplicit false

namespace ScriptAudit.Number

/-- Rounding a quotient gives its integer part or the next integer. -/
lemma divHalfEven_bounds (num den : ℕ) :
    num / den ≤ divHalfEven num den ∧ divHalfEven num den ≤ num / den + 1 := by
  unfold divHalfEven
  dsimp only
  split
  · omega
  · split <;> omega

/-- **Rounding up from an odd number.**  The nearest integer lies above an odd number if and only if
the quotient is at least half a unit above it, as the half goes to the even neighbour.

**Proof sketch.** By how the whole part of the quotient compares with the odd number.  Below or
above it the rounding by at most one does not matter; if they are equal, the half is rounded up,
away from the odd number. -/
lemma succ_le_divHalfEven_iff {num half odd : ℕ} (hodd : odd % 2 = 1) (hhalf : 0 < half) :
    odd + 1 ≤ divHalfEven num (2 * half) ↔ odd * (2 * half) + half ≤ num := by
  have hbounds := divHalfEven_bounds num (2 * half)
  have hnum := Nat.div_add_mod num (2 * half)
  have hmod := Nat.mod_lt num (by omega : 0 < 2 * half)
  rcases lt_trichotomy (num / (2 * half)) odd with hlt | heq | hgt
  · have hle : 2 * half * (num / (2 * half) + 1) ≤ 2 * half * odd := Nat.mul_le_mul_left _ hlt
    rw [Nat.mul_add] at hle
    rw [Nat.mul_comm odd]
    omega
  · have hround : divHalfEven num (2 * half) =
        if num % (2 * half) < half then odd else odd + 1 := by
      unfold divHalfEven
      dsimp only
      rw [heq]
      split <;> split <;> (try split) <;> omega
    rw [heq] at hnum
    rw [hround, Nat.mul_comm odd]
    split <;> omega
  · have hle : 2 * half * (odd + 1) ≤ 2 * half * (num / (2 * half)) := Nat.mul_le_mul_left _ hgt
    rw [Nat.mul_add] at hle
    rw [Nat.mul_comm odd]
    omega

/-- The binary exponent of a positive integer is its logarithm. -/
lemma binaryExponent_one {m : ℕ} (hm : m ≠ 0) : binaryExponent m 1 = m.log2 := by
  have hle : ¬ m < 2 ^ m.log2 := not_lt.mpr (Nat.log2_self_le hm)
  have hone : Nat.log2 1 = 0 := by decide
  simp [binaryExponent, hone, hle]

/-- The mantissa of the double nearest to a positive integer, up to a power of two. -/
def integerMantissa (m : ℕ) : ℕ :=
  if 52 ≤ m.log2 then divHalfEven m (2 ^ (m.log2 - 52)) else m * 2 ^ (52 - m.log2)

/-- The bits of the double nearest to a positive integer.

**Proof sketch.** The exponent of a positive integer is the one of its highest binary digit, and
never small enough for a denormal double.  Depending on whether it has more than 53 digits, the
mantissa is a rounded quotient or an exact product. -/
lemma nearestBits_one {m : ℕ} (hm : m ≠ 0) :
    nearestBits m 1 = min ((m.log2 + 1022) * octave + integerMantissa m) infinityBits := by
  have hunit : ¬ (m.log2 : ℤ) - 52 < -1074 := by omega
  have hbiased : ((m.log2 : ℤ) - 52 + 1074).toNat = m.log2 + 1022 := by omega
  rw [nearestBits, if_neg hm]
  dsimp only
  rw [binaryExponent_one hm, if_neg hunit, hbiased, integerMantissa]
  by_cases hlog : 52 ≤ m.log2
  · have hsign : 0 ≤ (m.log2 : ℤ) - 52 := by omega
    have hshift : ((m.log2 : ℤ) - 52).toNat = m.log2 - 52 := by omega
    rw [if_pos hsign, if_pos hlog, hshift, Nat.one_mul]
    rfl
  · have hsign : ¬ 0 ≤ (m.log2 : ℤ) - 52 := by omega
    have hshift : (-((m.log2 : ℤ) - 52)).toNat = 52 - m.log2 := by omega
    have hwhole : ∀ k, divHalfEven k 1 = k := fun k => by simp [divHalfEven, Nat.mod_one]
    rw [if_neg hsign, if_neg hlog, hshift, hwhole]
    rfl

/-- The mantissa has 53 binary digits, unless it is rounded up to the next power of two.

**Proof sketch.** The integer lies between two powers of two.  Dividing or multiplying all three by
the same power puts the bounds at 52 and 53 digits, and rounding moves the quotient by one at
most. -/
lemma integerMantissa_bounds {m : ℕ} (hm : m ≠ 0) :
    2 ^ 52 ≤ integerMantissa m ∧ integerMantissa m ≤ 2 ^ 53 := by
  have hlow := Nat.log2_self_le hm
  have hhigh : m < 2 ^ (m.log2 + 1) := Nat.lt_log2_self
  unfold integerMantissa
  split
  · rename_i hlog
    have hbounds := divHalfEven_bounds m (2 ^ (m.log2 - 52))
    have hquotient : 2 ^ 52 ≤ m / 2 ^ (m.log2 - 52) := by
      rw [Nat.le_div_iff_mul_le (Nat.two_pow_pos _), ← pow_add]
      rwa [show 52 + (m.log2 - 52) = m.log2 by omega]
    have hnext : m / 2 ^ (m.log2 - 52) < 2 ^ 53 := by
      rw [Nat.div_lt_iff_lt_mul (Nat.two_pow_pos _), ← pow_add]
      rwa [show 53 + (m.log2 - 52) = m.log2 + 1 by omega]
    omega
  · rename_i hlog
    have hscale : 0 < 2 ^ (52 - m.log2) := Nat.two_pow_pos _
    have hlow' := Nat.mul_le_mul_right (2 ^ (52 - m.log2)) hlow
    have hhigh' := Nat.mul_le_mul_right (2 ^ (52 - m.log2)) hhigh.le
    rw [← pow_add, show m.log2 + (52 - m.log2) = 52 by omega] at hlow'
    rw [← pow_add, show m.log2 + 1 + (52 - m.log2) = 53 by omega] at hhigh'
    exact ⟨hlow', hhigh'⟩

/-- **Rounding to infinity.**  The double nearest to an integer is infinite from half a step above
the largest finite double on.

**Proof sketch.** Below `2^1023` the bits stay below those of infinity, and from `2^1024` on they
reach them, whatever the mantissa is.  In between it depends on whether the mantissa is rounded up
to `2^53`. -/
lemma nearestBits_one_eq_infinityBits_iff (m : ℕ) :
    nearestBits m 1 = infinityBits ↔ 2 ^ 1024 - 2 ^ 970 ≤ m := by
  have hpow : (2 : ℕ) ^ 1024 = 2 ^ 54 * 2 ^ 970 := by rw [← pow_add]
  have hpow' : (2 : ℕ) ^ 1023 = 2 ^ 53 * 2 ^ 970 := by rw [← pow_add]
  have hpos : 0 < (2 : ℕ) ^ 970 := pow_pos Nat.two_pos 970
  by_cases hm : m = 0
  · subst hm
    rw [nearestBits, if_pos rfl, infinityBits, octave]
    omega
  have hmantissa := integerMantissa_bounds hm
  rw [nearestBits_one hm, min_eq_right_iff, infinityBits, octave]
  rcases lt_trichotomy m.log2 1023 with hlt | heq | hgt
  · have hhigh := (Nat.log2_lt hm).mp hlt
    omega
  · -- the largest mantissa is odd, so half a step above it already goes up to `2^53`
    have hround : 2 ^ 53 - 1 + 1 ≤ divHalfEven m (2 * 2 ^ 970) ↔ _ :=
      succ_le_divHalfEven_iff (by norm_num) hpos
    have hvalue : integerMantissa m = divHalfEven m (2 * 2 ^ 970) := by
      rw [integerMantissa, if_pos (by omega), heq, ← pow_succ']
    rw [← hvalue] at hround
    omega
  · have hlow := (Nat.le_log2 hm).mp hgt
    omega

/-- **Integers without a double** begin half a step above the largest finite double. -/
lemma ofInteger?_eq_none_iff (n : ℤ) : ofInteger? n = none ↔ 2 ^ 1024 - 2 ^ 970 ≤ n.natAbs := by
  rw [← nearestBits_one_eq_infinityBits_iff, ofInteger?]
  split <;> simp [*]

end ScriptAudit.Number
