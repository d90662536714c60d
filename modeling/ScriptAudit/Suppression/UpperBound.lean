/-!
# Binary search

## Main definitions

* `ScriptAudit.upperBound` — how many entries of an increasing array are at most a given number.
-/

set_option autoImplicit false

namespace ScriptAudit

/-- Binary search between `lo` and `hi` for the position behind the last entry that is at most
`x`. -/
def upperBoundIn (xs : Array Int) (x : Int) (lo hi : Nat) (bound : hi ≤ xs.size) : Nat :=
  if _h : lo < hi then
    let middle := (lo + hi) / 2
    if x < xs[middle] then upperBoundIn xs x lo middle (by omega)
    else upperBoundIn xs x (middle + 1) hi bound
  else lo
termination_by hi - lo

/-- The number of entries of an increasing array that are at most `x`. -/
def upperBound (xs : Array Int) (x : Int) : Nat := upperBoundIn xs x 0 xs.size (Nat.le_refl _)

end ScriptAudit
