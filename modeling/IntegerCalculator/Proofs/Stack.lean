import IntegerCalculator.Proofs.Grammar
import IntegerCalculator.Proofs.TreeValue

/-! What a stack of operands stands for. As long as computing goes well, each operand
on it is the value of a tree, and the tokens read so far are the post-orders of these
trees in the order in which they were pushed. So the only token sequences that have a
value are post-orders, and the value is that of the tree. -/

namespace IntegerCalculator.Postfix

inductive Steps : Stack → Token → Stack → Prop where
  | number (stack : Stack) (n : Int64) : Steps stack (.number n) (n :: stack)
  | operator {o : Operator} {a b c : Int64} (stack : Stack) : o.apply a b = .ok c →
      Steps (b :: a :: stack) (.operator o) (c :: stack)

theorem steps_of_step {stack stack' : Stack} {t : Token} (h : step stack t = .ok stack') :
    Steps stack t stack' := by
  cases t with
  | number n =>
    obtain rfl := Except.ok.inj h
    exact .number stack n
  | operator o =>
    match stack with
    | [] | [_] => cases h
    | b :: a :: stack =>
      obtain ⟨c, applied, pushed⟩ := bind_eq_ok_iff.1 h
      obtain rfl := Except.ok.inj pushed
      exact .operator stack applied
  | opening => cases h
  | closing => cases h

/-- The tokens are the post-orders of trees whose values make up the stack. -/
inductive Holds : List Token → Stack → Prop where
  | empty : Holds [] []
  | push {ts : List Token} {stack : Stack} {t : Tree} {n : Int64} :
      Holds ts stack → t.value = .ok n → Holds (ts ++ t.postorder) (n :: stack)

theorem Holds.step {ts : List Token} {stack stack' : Stack} {t : Token} (h : Holds ts stack)
    (stepped : Postfix.step stack t = .ok stack') : Holds (ts ++ [t]) stack' := by
  cases steps_of_step stepped with
  | number _ n => exact h.push (t := .leaf n) rfl
  | @operator o a b c _ applied =>
    -- The two topmost trees are joined under the operator.
    cases h with
    | @push _ _ r _ h right =>
      cases h with
      | @push _ _ l _ h left =>
        have joined := h.push ((Tree.value_node left right).trans applied)
        simpa [Tree.postorder] using joined

theorem Holds.run {ts us : List Token} {stack stack' : Stack} (h : Holds ts stack)
    (ran : Postfix.run stack us = .ok stack') : Holds (ts ++ us) stack' := by
  induction us generalizing ts stack with
  | nil =>
    obtain rfl := Except.ok.inj ran
    simpa using h
  | cons t us ih =>
    obtain ⟨next, stepped, rest⟩ := bind_eq_ok_iff.1 ran
    simpa using ih (h.step stepped) rest

theorem single_eq_ok_iff (stack : Stack) (n : Int64) : single stack = .ok n ↔ stack = [n] := by
  match stack with
  | [] | _ :: _ :: _ => simp [single]
  | [m] => simp [single]

/-- Nothing but the post-order of a tree has a value. -/
theorem exists_tree_of_value {ts : List Token} {n : Int64} (h : value ts = .ok n) :
    ∃ t : Tree, t.postorder = ts ∧ t.value = .ok n := by
  obtain ⟨stack, ran, alone⟩ := bind_eq_ok_iff.1 h
  obtain rfl := (single_eq_ok_iff stack n).1 alone
  have held := Holds.empty.run ran
  rw [List.nil_append] at held
  cases held with
  | @push _ _ t _ none_below computed =>
    cases none_below
    exact ⟨t, rfl, computed⟩

/-- Computing a post-order with a stack and computing its tree by recursion come to the
same, be it a value or a failure, and no other tokens have a value. -/
theorem value_is_value_of_tree :
    (∀ ts n, value ts = .ok n ↔ ∃ t : Tree, t.postorder = ts ∧ t.value = .ok n) ∧
      (∀ t u : Tree, t.postorder = u.postorder → t = u) ∧
      ∀ t : Tree, value t.postorder = t.value := by
  refine ⟨fun ts n => ⟨exists_tree_of_value, ?_⟩, fun t u => Tree.postorder_injective,
    value_postorder⟩
  rintro ⟨t, rfl, computed⟩
  rw [value_postorder, computed]

end IntegerCalculator.Postfix
