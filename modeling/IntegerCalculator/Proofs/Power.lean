import IntegerCalculator.Proofs.ExactArithmetic

/-! Powers at the ends of the range. Every factor that is squared on the way to a power
fits when squared, provided that the power itself fits: one square that overflows would
leave the whole without a value. So an overflow is always that of the exact power, also
for the lowest number of 64 bits and for exponents far beyond 64. -/

namespace IntegerCalculator

namespace Arithmetic

/-- Computing the power of `base` to `exponent` squares `factor` on its way. -/
inductive Squared : (base : Int64) → (exponent : Nat) → (factor : Int64) → Prop where
  | here {base : Int64} {exponent : Nat} : 1 < exponent → Squared base exponent base
  | further {base square factor : Int64} {exponent : Nat} : 1 < exponent →
      mul? base base = some square → Squared square (exponent / 2) factor →
      Squared base exponent factor

theorem powHigherBits?_of_squared {base factor : Int64} {exponent : Nat}
    (h : Squared base exponent factor) (overflows : mul? factor factor = none)
    (product : Int64) : powHigherBits? product base exponent = none := by
  induction h generalizing product with
  | here large =>
    rw [powHigherBits?, if_neg (Nat.not_le_of_lt large), overflows]
    rfl
  | @further base square factor exponent large squared _ ih =>
    rw [powHigherBits?, if_neg (Nat.not_le_of_lt large), squared, Option.bind_eq_bind,
      Option.bind_some]
    by_cases odd : exponent / 2 % 2 = 1
    · rw [if_pos odd]
      cases mul? product square with
      | none => rfl
      | some product => exact ih overflows product
    · rw [if_neg odd]
      exact ih overflows product

/-- No square is taken in vain: one that overflows makes the power overflow. -/
theorem pow?_of_squared {base factor : Int64} {exponent : Nat}
    (h : Squared base exponent factor) (overflows : mul? factor factor = none) :
    pow? base exponent = none := by
  induction h with
  | @here base exponent large =>
    rw [pow?, if_neg (by omega)]
    by_cases even : exponent % 2 = 0
    · rw [if_pos even, overflows]
      rfl
    · rw [if_neg even]
      exact powHigherBits?_of_squared (.here large) overflows base
  | @further base square factor exponent large squared rest ih =>
    rw [pow?, if_neg (by omega)]
    by_cases even : exponent % 2 = 0
    · rw [if_pos even, squared]
      exact ih overflows
    · rw [if_neg even]
      exact powHigherBits?_of_squared (.further large squared rest) overflows base

theorem exists_square_of_fits {base factor : Int64} {exponent : Nat}
    (fits : Fits (base.toInt ^ exponent)) (h : Squared base exponent factor) :
    ∃ square, mul? factor factor = some square ∧ square.toInt = factor.toInt * factor.toInt := by
  apply mul?_of_fits
  by_contra large
  have none_found := pow?_of_squared h (mul?_of_not_fits large)
  rw [pow?_eq_fit?] at none_found
  exact (fit?_eq_none_iff _).1 none_found fits

end Arithmetic

open Arithmetic

namespace Operator

theorem apply_power {b : Int64} (nonneg : 0 ≤ b) (a : Int64) :
    power.apply a b = apply.orOverflow (fit? (a.toInt ^ b.toInt.toNat)) := by
  rw [apply, if_neg (Int64.not_lt.2 nonneg), pow?_eq_fit?]

/-- A power is exact if it fits, without a square that overflows on the way, and
overflows otherwise. -/
theorem apply_power_exact {a b : Int64} (nonneg : 0 ≤ b) :
    (Fits (a.toInt ^ b.toInt.toNat) →
      (∃ n, power.apply a b = .ok n ∧ n.toInt = a.toInt ^ b.toInt.toNat) ∧
        ∀ factor, Squared a b.toInt.toNat factor →
          ∃ square, mul? factor factor = some square ∧
            square.toInt = factor.toInt * factor.toInt) ∧
      (¬ Fits (a.toInt ^ b.toInt.toNat) → power.apply a b = .error .overflow) := by
  rw [apply_power nonneg]
  refine ⟨fun fits => ⟨?_, fun factor => exists_square_of_fits fits⟩, fun large => ?_⟩
  · obtain ⟨n, fitted, exact⟩ := fit?_of_fits fits
    exact ⟨n, by rw [fitted]; rfl, exact⟩
  · rw [fit?_of_not_fits large]
    rfl

theorem apply_power_exact_lowest :
    (0 : Int64) ≤ 63 ∧ Fits ((-2 : Int64).toInt ^ (63 : Int64).toInt.toNat) ∧
      power.apply (-2) 63 = .ok Int64.minValue ∧ Squared (-2) 63 (-2) ∧
      (∃ square, mul? (-2) (-2) = some square) ∧
      ¬ Fits ((2 : Int64).toInt ^ (63 : Int64).toInt.toNat) ∧
      power.apply 2 63 = .error .overflow := by
  have nonneg : (0 : Int64) ≤ 63 := by decide
  have fits : Fits ((-2 : Int64).toInt ^ (63 : Int64).toInt.toNat) := by decide
  have large : ¬ Fits ((2 : Int64).toInt ^ (63 : Int64).toInt.toNat) := by decide
  obtain ⟨⟨n, power, exact⟩, squares⟩ := (apply_power_exact nonneg).1 fits
  obtain rfl : n = Int64.minValue := by
    rw [← Int64.toInt_inj, exact]
    decide
  have first : Squared (-2) 63 (-2) := .here (by decide)
  obtain ⟨square, squared, -⟩ := squares (-2) first
  exact ⟨nonneg, fits, power, first, ⟨square, squared⟩, large, (apply_power_exact nonneg).2 large⟩

end Operator

end IntegerCalculator
