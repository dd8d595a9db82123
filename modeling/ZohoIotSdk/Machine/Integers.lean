import Mathlib.Algebra.Order.Ring.Int
import Mathlib.Tactic.Linarith
import Mathlib.Tactic.Positivity

/-!
# Integers of fixed width

The conversions of an integer to a signed and to an unsigned type of `w` bits, and arithmetic
that has no result outside a signed type.
-/

namespace Machine

variable {w k m : ℕ} {n : ℤ}

/-- What a signed type of `w` bits can hold. -/
def InSigned (w : ℕ) (n : ℤ) : Prop := -2 ^ (w - 1) ≤ n ∧ n < 2 ^ (w - 1)

instance (w : ℕ) (n : ℤ) : Decidable (InSigned w n) := inferInstanceAs (Decidable (_ ∧ _))

/-- Conversion to a signed type: the value modulo `2 ^ w`. -/
def toSigned (w : ℕ) (n : ℤ) : ℤ := Int.bmod n (2 ^ w)

/-- Conversion to an unsigned type: the value modulo `2 ^ w`. -/
def toUnsigned (w : ℕ) (n : ℤ) : ℕ := (n % 2 ^ w).toNat

/-- A result of signed arithmetic; outside the type there is none. -/
def checked (w : ℕ) (n : ℤ) : Option ℤ := if InSigned w n then some n else none

/-- A value in range passes the check. -/
theorem checked_of_inSigned (h : InSigned w n) : checked w n = some n := if_pos h

/-- The conversion keeps a value in range. -/
theorem toSigned_of_inSigned (hw : 0 < w) (h : InSigned w n) : toSigned w n = n := by
  have hdouble : (2 ^ w : ℤ) = 2 * 2 ^ (w - 1) := by
    conv_lhs => rw [show w = w - 1 + 1 by omega]
    rw [pow_succ, mul_comm]
  apply Int.bmod_eq_of_le_mul_two
  · push_cast
    rw [hdouble]
    linarith only [h.1]
  · push_cast
    rw [hdouble]
    linarith only [h.2]

/-- The conversion keeps a value that is not negative and fits. -/
theorem toUnsigned_of_nonneg (hpos : 0 ≤ n) (hlt : n < 2 ^ w) : toUnsigned w n = n.toNat := by
  rw [toUnsigned, Int.emod_eq_of_lt hpos hlt]

/-- A number below zero counts down from `2 ^ w`. -/
theorem toUnsigned_of_neg (hneg : n < 0) (hle : -2 ^ w ≤ n) : (toUnsigned w n : ℤ) = 2 ^ w + n := by
  have hmod : n % 2 ^ w = 2 ^ w + n := by
    rw [← Int.add_emod_left, Int.emod_eq_of_lt]
    · linarith only [hle]
    · linarith only [hneg]
  rw [toUnsigned, hmod, Int.toNat_of_nonneg]
  linarith only [hle]

/-! ## Natural numbers -/

theorem inSigned_natCast (h : k < 2 ^ (w - 1)) : InSigned w k := by
  have hpos : (0 : ℤ) < 2 ^ (w - 1) := by positivity
  refine ⟨?_, by exact_mod_cast h⟩
  linarith only [hpos, Int.natCast_nonneg k]

theorem toSigned_natCast (hw : 0 < w) (h : k < 2 ^ (w - 1)) : toSigned w k = k :=
  toSigned_of_inSigned hw (inSigned_natCast h)

/-- The conversion of a natural number does not make it larger. -/
theorem toSigned_le (k : ℕ) : toSigned w k ≤ k := by
  have hmod : (k : ℤ) % (2 ^ w : ℕ) ≤ k := by
    rw [← Int.natCast_mod]
    exact_mod_cast Nat.mod_le k (2 ^ w)
  have hpos : (0 : ℤ) ≤ (2 ^ w : ℕ) := Int.natCast_nonneg _
  rw [toSigned, Int.bmod_def]
  split
  · exact hmod
  · linarith only [hmod, hpos]

theorem toUnsigned_natCast (h : k < 2 ^ w) : toUnsigned w k = k := by
  rw [toUnsigned_of_nonneg (Int.natCast_nonneg k) (by exact_mod_cast h), Int.toNat_natCast]

/-- What is missing from `m` to `k`. -/
theorem toUnsigned_sub (hle : m ≤ k) (h : k < 2 ^ w) : toUnsigned w ((k : ℤ) - m) = k - m := by
  rw [← Nat.cast_sub hle, toUnsigned_natCast (by omega)]

end Machine
