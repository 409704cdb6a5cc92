import Mathlib.Algebra.Group.Int.Defs
import Mathlib.Algebra.Group.Nat.Defs
import TemporalNetwork.Decimal

/-!
Decimal digits: how many there are, and how they begin.
-/

namespace TemporalNetwork.Decimal

theorem digits_of_lt {n : Nat} (small : n < 10) : digits n = [digitChar n] := by
  rw [digits, if_pos small]

theorem fits_of_lt {n : Int} (small : n.natAbs < 10) : fits n = true := by
  simp [fits, digits_of_lt small, mostDigits]

theorem digits_cons (n : Nat) : ∃ d ds, digits n = d :: ds ∧ d.isDigit = true := by
  cases same : digits n with
  | nil => exact absurd same (digits_ne_nil n)
  | cons d ds => exact ⟨d, ds, rfl, isDigit_of_mem_digits n d (same ▸ List.mem_cons_self)⟩

theorem lt_length_digits {n k : Nat} (large : 10 ^ k ≤ n) : k < (digits n).length := by
  induction k generalizing n with
  | zero => exact List.length_pos_iff.2 (digits_ne_nil n)
  | succ k ih =>
    have power : 10 ^ k * 10 ≤ n := by rwa [← Nat.pow_succ]
    have positive : 0 < 10 ^ k := Nat.pow_pos (by decide)
    have shorter := ih (n := n / 10) ((Nat.le_div_iff_mul_le (by decide)).2 power)
    rw [digits, if_neg (by omega), List.length_append, List.length_singleton]
    omega

theorem lt_length_digits_neg_pow (k : Nat) : k < (digits (-(10 ^ k) : Int).natAbs).length := by
  rw [Int.natAbs_neg, Int.natAbs_pow]
  exact lt_length_digits (Nat.le_refl _)

-- The least number that has one digit too many.
theorem not_fits_neg_pow : fits (-(10 ^ mostDigits)) = false :=
  decide_eq_false (Nat.not_le.2 (lt_length_digits_neg_pow mostDigits))

theorem digitChar_ne_zero : ∀ d < 10, d ≠ 0 → digitChar d ≠ '0' := by decide

-- Digits begin with a zero only if there is nothing else.
theorem head_digits (n : Nat) (positive : 0 < n) :
    ∃ d ds, digits n = d :: ds ∧ d ≠ '0' := by
  rw [digits]
  split
  · next small => exact ⟨digitChar n, [], rfl, digitChar_ne_zero n small (by omega)⟩
  · next large =>
    obtain ⟨d, ds, same, nonzero⟩ := head_digits (n / 10) (by omega)
    exact ⟨d, ds ++ [digitChar (n % 10)], by rw [same]; rfl, nonzero⟩
termination_by n
decreasing_by omega

end TemporalNetwork.Decimal
