import IntegerCalculator.Postfix
import IntegerCalculator.Proofs.ExactArithmetic

/-! The value of a tree. Running its post-order on a stack puts the value on top of
whatever is there already, or fails as the tree does; and the value is the exact
one as long as no subtree has a fault, the first fault in post-order deciding. -/

namespace IntegerCalculator

namespace Postfix

theorem run_postorder (t : Tree) (stack : Stack) :
    run stack t.postorder = t.value.map (· :: stack) := by
  induction t generalizing stack with
  | leaf n => rfl
  | node o l r ihl ihr =>
    rw [Tree.postorder, Tree.value, run_append, run_append, ihl]
    cases l.value with
    | error e => rfl
    | ok a =>
      change (run (a :: stack) r.postorder >>= fun stack => run stack [.operator o]) = _
      rw [ihr]
      cases r.value with
      | error e => rfl
      | ok b =>
        change run (b :: a :: stack) [.operator o] = (o.apply a b).map (· :: stack)
        rw [run_cons, step]
        cases o.apply a b <;> rfl

theorem value_postorder (t : Tree) : value t.postorder = t.value := by
  rw [value, run_postorder]
  cases t.value <;> rfl

end Postfix

namespace Tree

theorem value_node {o : Operator} {l r : Tree} {a b : Int64} (hl : l.value = .ok a)
    (hr : r.value = .ok b) : (node o l r).value = o.apply a b := by
  rw [value, hl, hr]
  rfl

theorem value_node_of_left {o : Operator} {l r : Tree} {e : Failure} (hl : l.value = .error e) :
    (node o l r).value = .error e := by
  rw [value, hl]
  rfl

theorem value_node_of_right {o : Operator} {l r : Tree} {a : Int64} {e : Failure}
    (hl : l.value = .ok a) (hr : r.value = .error e) : (node o l r).value = .error e := by
  rw [value, hl, hr]
  rfl

theorem firstFault?_node (o : Operator) (l r : Tree) :
    (node o l r).firstFault? =
      l.firstFault?.or (r.firstFault?.or (node o l r).ownFault?) := by
  simp [firstFault?, subtrees]

theorem apply_of_ownFault? {o : Operator} {l r : Tree} {a b : Int64} (ha : a.toInt = l.exact)
    (hb : b.toInt = r.exact) :
    match (node o l r).ownFault? with
    | none => ∃ n, o.apply a b = .ok n ∧ n.toInt = (node o l r).exact
    | some e => o.apply a b = .error e := by
  have applied := o.apply_eq a b
  rw [ha, hb] at applied
  rw [ownFault?]
  by_cases zero : o = .divide ∧ r.exact = 0
  · rw [if_pos zero] at applied ⊢
    exact applied
  rw [if_neg zero] at applied ⊢
  by_cases negative : o = .power ∧ r.exact < 0
  · rw [if_pos negative] at applied ⊢
    exact applied
  rw [if_neg negative] at applied ⊢
  by_cases fits : Arithmetic.Fits (node o l r).exact
  · obtain ⟨n, fit, exact⟩ := Arithmetic.fit?_of_fits fits
    rw [if_pos fits]
    refine ⟨n, ?_, exact⟩
    rw [applied]
    change Operator.apply.orOverflow (Arithmetic.fit? (node o l r).exact) = _
    rw [fit]
    rfl
  · rw [if_neg fits, applied]
    change Operator.apply.orOverflow (Arithmetic.fit? (node o l r).exact) = _
    rw [Arithmetic.fit?_of_not_fits fits]
    rfl

/-- A tree without faults has its exact value, and any other fails with its first
fault. -/
theorem value_of_firstFault? (t : Tree) :
    match t.firstFault? with
    | none => ∃ n, t.value = .ok n ∧ n.toInt = t.exact
    | some e => t.value = .error e := by
  induction t with
  | leaf n => exact ⟨n, rfl, rfl⟩
  | node o l r ihl ihr =>
    rw [firstFault?_node]
    -- Faults are looked for where evaluation goes: left, right, then the operator.
    cases hl : l.firstFault? with
    | some e =>
      rw [hl] at ihl
      exact value_node_of_left ihl
    | none =>
      rw [hl] at ihl
      obtain ⟨a, left, exact_left⟩ := ihl
      cases hr : r.firstFault? with
      | some e =>
        rw [hr] at ihr
        exact value_node_of_right left ihr
      | none =>
        rw [hr] at ihr
        obtain ⟨b, right, exact_right⟩ := ihr
        have applied := apply_of_ownFault? (o := o) exact_left exact_right
        rw [value_node left right]
        exact applied

theorem value_eq_ok_iff (t : Tree) (n : Int64) :
    t.value = .ok n ↔ t.firstFault? = none ∧ n.toInt = t.exact := by
  have value := t.value_of_firstFault?
  cases fault : t.firstFault? with
  | none =>
    rw [fault] at value
    obtain ⟨m, computed, exact⟩ := value
    rw [computed, ← exact, Int64.toInt_inj, Except.ok.injEq, eq_comm]
    simp
  | some e =>
    rw [fault] at value
    simp [value]

theorem value_eq_error_iff (t : Tree) (e : Failure) :
    t.value = .error e ↔ t.firstFault? = some e := by
  have value := t.value_of_firstFault?
  cases fault : t.firstFault? with
  | none =>
    rw [fault] at value
    obtain ⟨m, computed, -⟩ := value
    simp [computed]
  | some e' =>
    rw [fault] at value
    simp [value]

theorem ownFault?_eq_some {t : Tree} {e : Failure} (h : t.ownFault? = some e) :
    e = .divisionByZero ∨ e = .negativeExponent ∨ e = .overflow := by
  cases t with
  | leaf n => cases h
  | node o l r =>
    rw [ownFault?] at h
    split at h
    · exact .inl (Option.some.inj h).symm
    · split at h
      · exact .inr (.inl (Option.some.inj h).symm)
      · split at h
        · contradiction
        · exact .inr (.inr (Option.some.inj h).symm)

theorem fault_of_value {t : Tree} {e : Failure} (h : t.value = .error e) :
    e = .divisionByZero ∨ e = .negativeExponent ∨ e = .overflow := by
  have fault := (t.value_eq_error_iff e).1 h
  obtain ⟨u, -, own⟩ := List.exists_of_findSome?_eq_some fault
  exact ownFault?_eq_some own

/-- Every subtree has an exact value within 64 bits, no divisor is zero and no
exponent is negative. -/
structure Sound (t : Tree) : Prop where
  fits : ∀ u ∈ t.subtrees, Arithmetic.Fits u.exact
  divisor : ∀ l r, node .divide l r ∈ t.subtrees → r.exact ≠ 0
  exponent : ∀ l r, node .power l r ∈ t.subtrees → 0 ≤ r.exact

theorem ownFault?_eq_none_iff (t : Tree) :
    t.ownFault? = none ↔
      Arithmetic.Fits t.exact ∧ (∀ l r, t = node .divide l r → r.exact ≠ 0) ∧
        ∀ l r, t = node .power l r → 0 ≤ r.exact := by
  cases t with
  | leaf n => simp [ownFault?, exact, Arithmetic.fits_toInt]
  | node o l r =>
    rw [ownFault?]
    split
    next zero =>
      simp only [reduceCtorEq, false_iff]
      rintro ⟨-, divisor, -⟩
      exact divisor l r (by rw [zero.1]) zero.2
    next nonzero =>
      split
      next negative =>
        simp only [reduceCtorEq, false_iff]
        rintro ⟨-, -, exponent⟩
        have := exponent l r (by rw [negative.1])
        omega
      next nonnegative =>
        split
        next fits =>
          simp only [true_iff]
          refine ⟨fits, ?_, ?_⟩
          · rintro _ _ ⟨rfl, rfl, rfl⟩ zero
            exact nonzero ⟨rfl, zero⟩
          · rintro _ _ ⟨rfl, rfl, rfl⟩
            by_contra negative
            exact nonnegative ⟨rfl, by omega⟩
        next large =>
          simp only [reduceCtorEq, false_iff]
          exact fun h => large h.1

theorem firstFault?_eq_none_iff (t : Tree) : t.firstFault? = none ↔ t.Sound := by
  rw [firstFault?, List.findSome?_eq_none_iff]
  constructor
  · intro none
    exact ⟨fun u hu => ((ownFault?_eq_none_iff u).1 (none u hu)).1,
      fun l r hu => ((ownFault?_eq_none_iff _).1 (none _ hu)).2.1 l r rfl,
      fun l r hu => ((ownFault?_eq_none_iff _).1 (none _ hu)).2.2 l r rfl⟩
  · rintro ⟨fits, divisor, exponent⟩ u hu
    apply (ownFault?_eq_none_iff u).2
    refine ⟨fits u hu, ?_, ?_⟩
    · rintro l r rfl
      exact divisor l r hu
    · rintro l r rfl
      exact exponent l r hu

instance (t : Tree) : Decidable t.Sound := decidable_of_iff _ (firstFault?_eq_none_iff t)

end Tree

end IntegerCalculator
