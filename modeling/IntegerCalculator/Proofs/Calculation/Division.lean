import IntegerCalculator.Proofs.Calculation.Enclosure

/-! Division with remainder, computed by expressions. Quotient times divisor and the
remainder make up the dividend, for operands of any sign at any place of the range. The
only quotient out of range is that of the lowest number by minus one; without it every
step on the way fits, and the remainder is smaller than the divisor and has the sign of
the dividend.

Phrases are texts that are put together from texts. What a phrase comes to is known from
its parts alone, so an expression that repeats others, in brackets or beside an operator,
has the outcome that its operators give on theirs. -/

namespace IntegerCalculator

namespace Token

theorem ofText_append_symbol {s t : Text} {ts us : List Token} (o : Operator)
    (left : ofText s = .ok ts) (right : ofText t = .ok us) :
    ofText (s ++ o.symbol :: t) = .ok (ts ++ .operator o :: us) := by
  have read : ofText [o.symbol] = .ok [.operator o] := by cases o <;> rfl
  rw [ofText_append_cons o.symbol_isDigit, left, read, right]
  change Except.ok (ts ++ [.operator o] ++ us) = _
  simp

end Token

/-- The text reads as a sentence of the rank, and this is what its tree comes to. -/
def Phrase (r : Rank) (s : Text) (outcome : Except Failure Int64) : Prop :=
  ∃ ts t, Token.ofText s = .ok ts ∧ Sentence r ts t ∧ t.value = outcome

namespace Phrase

variable {q r : Rank} {s t : Text} {v w : Except Failure Int64}

theorem enclose (h : Phrase r s v) : Phrase .operand (Text.enclose s) v := by
  obtain ⟨ts, tree, tokens, sentence, value⟩ := h
  exact ⟨_, tree, Token.ofText_bracketed tokens, .bracket sentence.toSum, value⟩

theorem node (left : Phrase q s v) (o : Operator) (right : Phrase r t w)
    (hq : o.leftRank.level ≤ q.level) (hr : o.rightRank.level ≤ r.level) :
    Phrase o.rank (s ++ o.symbol :: t) (do o.apply (← v) (← w)) := by
  obtain ⟨ts, tree, tokens, sentence, rfl⟩ := left
  obtain ⟨us, tree', tokens', sentence', rfl⟩ := right
  exact ⟨_, .node o tree tree', Token.ofText_append_symbol o tokens tokens',
    .node o (sentence.weaken hq) (sentence'.weaken hr), rfl⟩

theorem node_of_ok {a b : Int64} {o : Operator} (applied : o.apply a b = v)
    (left : Phrase q s (.ok a)) (right : Phrase r t (.ok b))
    (hq : o.leftRank.level ≤ q.level) (hr : o.rightRank.level ≤ r.level) :
    Phrase o.rank (s ++ o.symbol :: t) v := by
  rw [← applied]
  exact left.node o right hq hr

theorem node_of_left_error {e : Failure} (o : Operator) (left : Phrase q s (.error e))
    (right : Phrase r t w) (hq : o.leftRank.level ≤ q.level)
    (hr : o.rightRank.level ≤ r.level) : Phrase o.rank (s ++ o.symbol :: t) (.error e) :=
  left.node o right hq hr

theorem value_eq (h : Phrase r s v) : Calculation.value s = v := by
  obtain ⟨ts, tree, tokens, sentence, rfl⟩ := h
  have passed := Calculation.check_of_balanced (Token.clean_of_ofText tokens)
    (sentence.balanced_of_ofText tokens)
  exact Calculation.value_of_sentence passed tokens sentence.toSum

theorem of_value {n : Int64} (h : Calculation.value s = .ok n) : Phrase .sum s (.ok n) := by
  obtain ⟨-, -, ts, tree, tokens, sentence, value⟩ := Calculation.exists_sentence_of_value h
  exact ⟨ts, tree, tokens, sentence, value⟩

end Phrase

namespace Arithmetic

theorem tmod_toward_zero (a b : Int) :
    (0 ≤ a → 0 ≤ a.tmod b ∧ a.tmod b ≤ a) ∧ (a ≤ 0 → a ≤ a.tmod b ∧ a.tmod b ≤ 0) := by
  have size : (a.tmod b).natAbs ≤ a.natAbs := by
    rw [Int.natAbs_tmod]
    exact Nat.mod_le _ _
  constructor
  · intro nonneg
    have sign := Int.tmod_nonneg b nonneg
    omega
  · intro nonpos
    have sign := Int.tmod_nonneg b (Int.neg_nonneg_of_nonpos nonpos)
    rw [Int.neg_tmod] at sign
    omega

theorem fits_tmod {a : Int} (h : Fits a) (b : Int) : Fits (a.tmod b) := by
  obtain ⟨above, below⟩ := tmod_toward_zero a b
  unfold Fits at h ⊢
  omega

theorem fits_tdiv_mul {a : Int} (h : Fits a) (b : Int) : Fits (a.tdiv b * b) := by
  obtain ⟨above, below⟩ := tmod_toward_zero a b
  have whole := Int.tdiv_mul_add_tmod a b
  unfold Fits at h ⊢
  omega

/-- A quotient is out of range only where the sign of the lowest number is changed. -/
theorem fits_tdiv {a b : Int} (h : Fits a) (inside : ¬ (a = -9223372036854775808 ∧ b = -1)) :
    Fits (a.tdiv b) := by
  have size := Int.natAbs_tdiv_le_natAbs a b
  by_cases opposite : b = -1
  · rw [opposite, Int.tdiv_neg, Int.tdiv_one]
    unfold Fits at h ⊢
    omega
  by_cases same : b = 1
  · rw [same, Int.tdiv_one]
    exact h
  -- Any other divisor at least halves the number.
  have half : (a.tdiv b).natAbs ≤ a.natAbs / 2 := by
    rw [Int.natAbs_tdiv]
    by_cases zero : b = 0
    · rw [zero]
      exact (Nat.div_zero _).trans_le (Nat.zero_le _)
    · exact Nat.div_le_div_left (by omega) (by decide)
  unfold Fits at h ⊢
  omega

theorem natAbs_tmod_lt (a : Int) {b : Int} (nonzero : b ≠ 0) :
    (a.tmod b).natAbs < b.natAbs := by
  rw [Int.natAbs_tmod]
  exact Nat.mod_lt _ (Int.natAbs_pos.2 nonzero)

theorem tmod_eq_zero_or_sign_eq (a b : Int) :
    a.tmod b = 0 ∨ (a.tmod b).sign = a.sign := by
  by_cases exact : b ∣ a
  · exact .inl (Int.tmod_eq_zero_of_dvd exact)
  · exact .inr (by rw [Int.sign_tmod, if_neg exact])

theorem toInt_minValue_iff (a : Int64) :
    a = Int64.minValue ↔ a.toInt = -9223372036854775808 := by
  rw [← Int64.toInt_inj]
  rfl

end Arithmetic

open Arithmetic

theorem Operator.apply_of_exact {o : Operator} {a b n : Int64} (noPower : o ≠ .power)
    (divisor : o = .divide → b.toInt ≠ 0) (exact : o.exact a.toInt b.toInt = n.toInt) :
    o.apply a b = .ok n := by
  rw [apply_eq, if_neg fun h => divisor h.1 h.2, if_neg fun h => noPower h.1, exact, fit?_toInt]
  rfl

theorem Operator.divide_by_zero (a : Int64) :
    Operator.divide.apply a 0 = .error .divisionByZero := rfl

theorem Operator.divide_lowest_by_minus_one :
    Operator.divide.apply Int64.minValue (-1) = .error .overflow := by decide

theorem exists_division {a b : Int64} (nonzero : b ≠ 0)
    (inside : ¬ (a = Int64.minValue ∧ b = -1)) :
    ∃ q p r : Int64, Operator.divide.apply a b = .ok q ∧ Operator.times.apply q b = .ok p ∧
      Operator.minus.apply a p = .ok r ∧ Operator.plus.apply p r = .ok a ∧
      q.toInt = a.toInt.tdiv b.toInt ∧ p.toInt = q.toInt * b.toInt ∧
      r.toInt = a.toInt.tmod b.toInt := by
  have divisor : b.toInt ≠ 0 := fun h => nonzero (Int64.toInt_inj.1 h)
  have minusOne : b = -1 ↔ b.toInt = -1 := by
    rw [← Int64.toInt_inj]
    rfl
  rw [toInt_minValue_iff, minusOne] at inside
  have range := fits_toInt a
  obtain ⟨q, -, quotient⟩ := fit?_of_fits (fits_tdiv range inside)
  obtain ⟨p, -, multiple⟩ := fit?_of_fits (fits_tdiv_mul range b.toInt)
  obtain ⟨r, -, remainder⟩ := fit?_of_fits (fits_tmod range b.toInt)
  have whole := Int.tdiv_mul_add_tmod a.toInt b.toInt
  have product : p.toInt = q.toInt * b.toInt := by rw [multiple, quotient]
  have difference : a.toInt - p.toInt = r.toInt := by
    rw [multiple, remainder]
    omega
  have sum : p.toInt + r.toInt = a.toInt := by omega
  exact ⟨q, p, r, Operator.apply_of_exact (by decide) (fun _ => divisor) quotient.symm,
    Operator.apply_of_exact (by decide) (by simp) product.symm,
    Operator.apply_of_exact (by decide) (by simp) difference,
    Operator.apply_of_exact (by decide) (by simp) sum, quotient, product, remainder⟩

namespace Text

def quotient (s t : Text) : Text := enclose s ++ '/' :: enclose t

def multiple (s t : Text) : Text := enclose (quotient s t) ++ '*' :: enclose t

def remainder (s t : Text) : Text := enclose s ++ '-' :: multiple s t

/-- The text `((s)/(t))*(t)+((s)-((s)/(t))*(t))`. -/
def recomposed (s t : Text) : Text := multiple s t ++ '+' :: enclose (remainder s t)

example : recomposed "7".toList "2".toList = "((7)/(2))*(2)+((7)-((7)/(2))*(2))".toList := rfl

end Text

namespace Calculation

theorem value_recomposed_of_error {s t : Text} {a b : Int64} (hs : Phrase .sum s (.ok a))
    (ht : Phrase .sum t (.ok b)) {e : Failure} (failed : Operator.divide.apply a b = .error e) :
    value (Text.recomposed s t) = .error e := by
  have first := hs.enclose.node_of_ok failed ht.enclose (by decide) (by decide)
  have second := first.enclose.node_of_left_error .times ht.enclose (by decide) (by decide)
  have third := hs.enclose.node .minus second (by decide) (by decide)
  have last := second.node_of_left_error .plus third.enclose (by decide) (by decide)
  exact last.value_eq

/-- Dividing and multiplying back, with the remainder added, gives the dividend. -/
theorem division_recomposes {s t : Text} {a b : Int64} (dividend : value s = .ok a)
    (divisor : value t = .ok b) :
    (b = 0 → value (Text.recomposed s t) = .error .divisionByZero) ∧
      (a = Int64.minValue ∧ b = -1 → value (Text.recomposed s t) = .error .overflow) ∧
      (b ≠ 0 → ¬ (a = Int64.minValue ∧ b = -1) →
        value (Text.recomposed s t) = .ok a ∧
          ∃ q p r : Int64, value (Text.quotient s t) = .ok q ∧
            value (Text.multiple s t) = .ok p ∧ value (Text.remainder s t) = .ok r ∧
            q.toInt = a.toInt.tdiv b.toInt ∧ p.toInt = q.toInt * b.toInt ∧
            r.toInt = a.toInt - p.toInt ∧ r.toInt.natAbs < b.toInt.natAbs ∧
            (r.toInt = 0 ∨ r.toInt.sign = a.toInt.sign)) := by
  have hs := Phrase.of_value dividend
  have ht := Phrase.of_value divisor
  refine ⟨?_, ?_, fun nonzero inside => ?_⟩
  · rintro rfl
    exact value_recomposed_of_error hs ht (Operator.divide_by_zero a)
  · rintro ⟨rfl, rfl⟩
    exact value_recomposed_of_error hs ht Operator.divide_lowest_by_minus_one
  · obtain ⟨q, p, r, divided, multiplied, subtracted, added, quotient, product, remainder⟩ :=
      exists_division nonzero inside
    have nonzero' : b.toInt ≠ 0 := fun h => nonzero (Int64.toInt_inj.1 h)
    have whole := Int.tdiv_mul_add_tmod a.toInt b.toInt
    have first := hs.enclose.node_of_ok divided ht.enclose (by decide) (by decide)
    have second := first.enclose.node_of_ok multiplied ht.enclose (by decide) (by decide)
    have third := hs.enclose.node_of_ok subtracted second (by decide) (by decide)
    have last := second.node_of_ok added third.enclose (by decide) (by decide)
    refine ⟨last.value_eq, q, p, r, first.value_eq, second.value_eq, third.value_eq, quotient,
      product, ?_, ?_, ?_⟩
    · rw [remainder, product, quotient]
      omega
    · rw [remainder]
      exact natAbs_tmod_lt a.toInt nonzero'
    · rw [remainder]
      exact tmod_eq_zero_or_sign_eq a.toInt b.toInt

theorem division_recomposes_lowest :
    value "0-9223372036854775807-1".toList = .ok Int64.minValue ∧
      value "3-3".toList = .ok 0 ∧ value "0-1".toList = .ok (-1) ∧
      value "0-10".toList = .ok (-10) ∧
      value (Text.recomposed "0-9223372036854775807-1".toList "3-3".toList) =
        .error .divisionByZero ∧
      value (Text.recomposed "0-9223372036854775807-1".toList "0-1".toList) =
        .error .overflow ∧
      value (Text.recomposed "0-9223372036854775807-1".toList "0-10".toList) =
        .ok Int64.minValue ∧
      value (Text.quotient "0-9223372036854775807-1".toList "0-10".toList) =
        .ok 922337203685477580 ∧
      value (Text.remainder "0-9223372036854775807-1".toList "0-10".toList) = .ok (-8) := by
  have lowest : value "0-9223372036854775807-1".toList = .ok Int64.minValue := by decide +kernel
  have zero : value "3-3".toList = .ok 0 := by decide +kernel
  have minusOne : value "0-1".toList = .ok (-1) := by decide +kernel
  have minusTen : value "0-10".toList = .ok (-10) := by decide +kernel
  obtain ⟨whole, q, p, r, first, -, third, quotient, product, remainder, -⟩ :=
    (division_recomposes lowest minusTen).2.2 (by decide) (by decide)
  have q_eq : q = 922337203685477580 := Int64.toInt_inj.1 quotient
  have p_eq : p.toInt = -9223372036854775800 := by rw [product, q_eq]; rfl
  have r_eq : r = -8 := Int64.toInt_inj.1 (by rw [remainder, p_eq]; rfl)
  rw [q_eq] at first
  rw [r_eq] at third
  exact ⟨lowest, zero, minusOne, minusTen, (division_recomposes lowest zero).1 rfl,
    (division_recomposes lowest minusOne).2.1 ⟨rfl, rfl⟩, whole, first, third⟩

end Calculation

end IntegerCalculator
