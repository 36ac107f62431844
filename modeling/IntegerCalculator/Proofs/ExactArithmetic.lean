import IntegerCalculator.Tree
import Mathlib.Algebra.Order.Ring.Int
import Mathlib.Tactic.Linarith
import Mathlib.Tactic.Ring

/-! Checked operations against the unbounded integers. Each of them answers the
exact result whenever that fits 64 bits, and overflows otherwise. For powers
this needs an argument: no square that is taken on the way leaves the range
unless the power itself does. -/

namespace IntegerCalculator

namespace Arithmetic

theorem fit?_of_fits {n : Int} (h : Fits n) : ∃ a, fit? n = some a ∧ a.toInt = n :=
  ⟨Int64.ofInt n, if_pos h, (fit?_eq_some_iff n _).1 (if_pos h)⟩

theorem fit?_of_not_fits {n : Int} (h : ¬ Fits n) : fit? n = none := if_neg h

theorem mul?_of_fits {a b : Int64} (h : Fits (a.toInt * b.toInt)) :
    ∃ c, mul? a b = some c ∧ c.toInt = a.toInt * b.toInt :=
  fit?_of_fits h

theorem mul?_of_not_fits {a b : Int64} (h : ¬ Fits (a.toInt * b.toInt)) : mul? a b = none :=
  fit?_of_not_fits h

theorem factors_ne_zero {a b : Int} (h : ¬ Fits (a * b)) : a ≠ 0 ∧ b ≠ 0 := by
  constructor
  · rintro rfl
    rw [zero_mul] at h
    exact h (by decide)
  · rintro rfl
    rw [mul_zero] at h
    exact h (by decide)

theorem not_fits_mul {n k : Int} (h : ¬ Fits n) (hk : 1 ≤ k) : ¬ Fits (n * k) := by
  unfold Fits at h ⊢
  rintro ⟨lower, upper⟩
  apply h
  constructor
  · by_contra low
    nlinarith
  · by_contra high
    nlinarith

/-- The end of the range is no square, so a square that does not fit lies beyond it
with either sign. -/
theorem lt_square_of_not_fits {a : Int} (h : ¬ Fits (a * a)) : 9223372036854775808 < a * a := by
  have nonneg : 0 ≤ a * a := mul_self_nonneg a
  have large : 9223372036854775807 < a * a := by
    unfold Fits at h
    omega
  rcases le_or_gt a 0 with ha | ha
  · have root : a < -3037000499 := by
      by_contra near
      nlinarith
    nlinarith
  · have root : 3037000499 < a := by
      by_contra near
      nlinarith
    nlinarith

theorem one_le_square_pow {a : Int} (h : a ≠ 0) (k : Nat) : 1 ≤ (a * a) ^ k :=
  Int.add_one_le_of_lt (pow_pos (mul_self_pos.2 h) k)

/-- Once a square does not fit, no multiple of a power of it does. -/
theorem not_fits_mul_square_pow {a n : Int} {k : Nat} (h : ¬ Fits (a * a)) (hn : n ≠ 0)
    (hk : 0 < k) : ¬ Fits (n * (a * a) ^ k) := by
  obtain ⟨k, rfl⟩ : ∃ j, k = j + 1 := ⟨k - 1, by omega⟩
  have square := lt_square_of_not_fits h
  have once : ¬ Fits (n * (a * a)) := by
    unfold Fits
    rintro ⟨lower, upper⟩
    rcases lt_or_gt_of_ne hn with negative | positive
    · have : n ≤ -1 := by omega
      nlinarith
    · have : 1 ≤ n := by omega
      nlinarith
  have rest := one_le_square_pow (factors_ne_zero h).1 k
  rw [pow_succ', ← mul_assoc]
  exact not_fits_mul once rest

theorem pow_of_odd (a : Int) {k : Nat} (h : k % 2 = 1) : a ^ k = a * (a * a) ^ (k / 2) := by
  have split : k = 2 * (k / 2) + 1 := by omega
  calc
    a ^ k = a ^ (2 * (k / 2) + 1) := by rw [← split]
    _ = a * (a * a) ^ (k / 2) := by rw [pow_succ', pow_mul, pow_two]

theorem pow_of_even (a : Int) {k : Nat} (h : k % 2 = 0) : a ^ k = (a * a) ^ (k / 2) := by
  have split : k = 2 * (k / 2) := by omega
  calc
    a ^ k = a ^ (2 * (k / 2)) := by rw [← split]
    _ = (a * a) ^ (k / 2) := by rw [pow_mul, pow_two]

/-- What the higher bits of an exponent multiply up. A product of zero can only come
from a base of zero; without that the squares could overflow for nothing. -/
theorem powHigherBits?_eq_fit? (product base : Int64) (exponent : Nat)
    (zero : product.toInt = 0 → base.toInt = 0) :
    powHigherBits? product base exponent =
      fit? (product.toInt * (base.toInt * base.toInt) ^ (exponent / 2)) := by
  induction exponent using Nat.strongRecOn generalizing product base with
  | ind exponent ih =>
    rw [powHigherBits?]
    by_cases small : exponent ≤ 1
    · have used_up : exponent / 2 = 0 := by omega
      simp [small, used_up]
    have smaller : exponent / 2 < exponent := by omega
    rw [if_neg small]
    by_cases squareFits : Fits (base.toInt * base.toInt)
    · obtain ⟨square, squared, square_eq⟩ := mul?_of_fits squareFits
      have zero_square : product.toInt = 0 → square.toInt = 0 := by
        intro h
        rw [square_eq, zero h, mul_zero]
      rw [squared, ← square_eq, Option.bind_eq_bind, Option.bind_some]
      by_cases odd : exponent / 2 % 2 = 1
      · rw [if_pos odd, pow_of_odd _ odd, ← mul_assoc]
        by_cases productFits : Fits (product.toInt * square.toInt)
        · obtain ⟨product', multiplied, product_eq⟩ := mul?_of_fits productFits
          have zero_product : product'.toInt = 0 → square.toInt = 0 := by
            intro h
            exact (mul_eq_zero.1 (product_eq.symm.trans h)).elim zero_square id
          rw [multiplied, ← product_eq]
          exact ih _ smaller product' square zero_product
        · have rest := one_le_square_pow (factors_ne_zero productFits).2 (exponent / 2 / 2)
          rw [mul?_of_not_fits productFits, fit?_of_not_fits (not_fits_mul productFits rest)]
          rfl
      · rw [if_neg odd, pow_of_even _ (by omega)]
        exact ih _ smaller product square zero_square
    · -- The square is out of range, and no multiple of its powers comes back into it.
      have nonzero : product.toInt ≠ 0 := mt zero (factors_ne_zero squareFits).1
      rw [mul?_of_not_fits squareFits,
        fit?_of_not_fits (not_fits_mul_square_pow squareFits nonzero (by omega))]
      rfl

theorem pow?_eq_fit? (base : Int64) (exponent : Nat) :
    pow? base exponent = fit? (base.toInt ^ exponent) := by
  induction exponent using Nat.strongRecOn generalizing base with
  | ind exponent ih =>
    rw [pow?]
    by_cases used_up : exponent = 0
    · rw [if_pos used_up, used_up, pow_zero]
      rfl
    rw [if_neg used_up]
    by_cases even : exponent % 2 = 0
    · rw [if_pos even, pow_of_even _ even]
      by_cases squareFits : Fits (base.toInt * base.toInt)
      · obtain ⟨square, squared, square_eq⟩ := mul?_of_fits squareFits
        rw [squared, ← square_eq]
        exact ih _ (by omega) square
      · have overflows := not_fits_mul_square_pow (k := exponent / 2) squareFits one_ne_zero
          (by omega)
        rw [one_mul] at overflows
        rw [mul?_of_not_fits squareFits, fit?_of_not_fits overflows]
        rfl
    · rw [if_neg even, powHigherBits?_eq_fit? base base exponent id, ← pow_of_odd _ (by omega)]

end Arithmetic

open Arithmetic

/-- Every operator judges its right operand and then answers its exact value, if
that fits. -/
theorem Operator.apply_eq (o : Operator) (a b : Int64) :
    o.apply a b =
      if o = .divide ∧ b.toInt = 0 then .error .divisionByZero
      else if o = .power ∧ b.toInt < 0 then .error .negativeExponent
      else apply.orOverflow (fit? (o.exact a.toInt b.toInt)) := by
  have zero : b = 0 ↔ b.toInt = 0 := by rw [← Int64.toInt_inj]; rfl
  have negative : b < 0 ↔ b.toInt < 0 := by rw [Int64.lt_iff_toInt_lt]; rfl
  cases o with
  | plus => rfl
  | minus => rfl
  | times => rfl
  | divide => simp [apply, zero, quotient?, Operator.exact]
  | power => simp [apply, negative, pow?_eq_fit?, Operator.exact]

end IntegerCalculator
