/-!
# Ranges of code points

Character classes that reach beyond ASCII are given as tables of closed ranges of code points, in
increasing order.  This module holds the one operation on such a table, and the two ranges of the
letters of ASCII.

## Main definitions

* `ScriptAudit.Text.inRanges` — membership of a code point in a table.
-/

set_option autoImplicit false

namespace ScriptAudit.Text

/-- Whether `n` lies in one of the closed ranges `(lo, hi)`.  The ranges stand in increasing order,
so the search may stop at the first range that begins above `n`. -/
def inRanges (n : Nat) : List (Nat × Nat) → Bool
  | [] => false
  | (lo, hi) :: rest => if n < lo then false else decide (n ≤ hi) || inRanges n rest

/-- A code point found in a table lies in one of its ranges. -/
theorem exists_range_of_inRanges {n : Nat} :
    ∀ {table : List (Nat × Nat)}, inRanges n table = true →
      ∃ r ∈ table, r.1 ≤ n ∧ n ≤ r.2
  | [], h => by simp [inRanges] at h
  | (lo, hi) :: rest, h => by
    by_cases hlo : n < lo
    · simp [inRanges, hlo] at h
    · by_cases hhi : n ≤ hi
      · exact ⟨(lo, hi), by simp, Nat.le_of_not_lt hlo, hhi⟩
      · obtain ⟨r, hr, hn⟩ := exists_range_of_inRanges
          (show inRanges n rest = true by simpa [inRanges, hlo, hhi] using h)
        exact ⟨r, List.mem_cons_of_mem _ hr, hn⟩

/-- Tables whose ranges lie apart have no code point in common. -/
theorem inRanges_eq_false_of_apart {table other : List (Nat × Nat)}
    (hapart : table.all (fun r => other.all fun s => r.2 < s.1 || s.2 < r.1) = true) {n : Nat}
    (h : inRanges n table = true) : inRanges n other = false := by
  cases hother : inRanges n other with
  | false => rfl
  | true =>
    obtain ⟨r, hr, hlower, hupper⟩ := exists_range_of_inRanges h
    obtain ⟨s, hs, hlower', hupper'⟩ := exists_range_of_inRanges hother
    have hside := List.all_eq_true.mp (List.all_eq_true.mp hapart r hr) s hs
    simp only [Bool.or_eq_true, decide_eq_true_eq] at hside
    omega

/-- The capital letters of ASCII are a range of code points. -/
theorem isUpper_iff (c : Char) : c.isUpper = true ↔ 65 ≤ c.toNat ∧ c.toNat ≤ 90 := by
  have hdef : c.isUpper = decide ('A'.val ≤ c.val ∧ c.val ≤ 'Z'.val) := rfl
  rw [hdef, decide_eq_true_iff]
  exact and_congr UInt32.le_iff_toNat_le UInt32.le_iff_toNat_le

/-- The small letters of ASCII are a range of code points. -/
theorem isLower_iff (c : Char) : c.isLower = true ↔ 97 ≤ c.toNat ∧ c.toNat ≤ 122 := by
  have hdef : c.isLower = (decide ('a'.val ≤ c.val) && decide (c.val ≤ 'z'.val)) := rfl
  rw [hdef, Bool.and_eq_true, decide_eq_true_iff, decide_eq_true_iff]
  exact and_congr UInt32.le_iff_toNat_le UInt32.le_iff_toNat_le

end ScriptAudit.Text
