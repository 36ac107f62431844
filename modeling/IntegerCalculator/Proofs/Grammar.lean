import IntegerCalculator.Tree

/-! The grammar seen through its operators. Every operator asks one rank of its
left operand and one of its right operand, and gives one rank to the whole;
with that the layers of the grammar become one rule. Two operators that
contend for an operand are decided by these ranks alone. -/

namespace IntegerCalculator

def Rank.level : Rank → Nat
  | .sum => 1
  | .product => 2
  | .power => 3
  | .operand => 4

theorem Rank.level_sum_le (r : Rank) : Rank.sum.level ≤ r.level := by cases r <;> decide

theorem Rank.level_le_operand (r : Rank) : r.level ≤ Rank.operand.level := by cases r <;> decide

namespace Operator

def rank : Operator → Rank
  | plus | minus => .sum
  | times | divide => .product
  | power => .power

def leftRank : Operator → Rank
  | plus | minus => .sum
  | times | divide => .product
  | power => .operand

def rightRank : Operator → Rank
  | plus | minus => .product
  | times | divide | power => .power

theorem rank_le_leftRank (o : Operator) : o.rank.level ≤ o.leftRank.level := by
  cases o <;> decide

theorem rank_le_rightRank (o : Operator) : o.rank.level ≤ o.rightRank.level := by
  cases o <;> decide

/-- `p` takes the operand between `p` and `o` when a sentence of `p` can be the left
operand of `o`. -/
theorem takesBefore_iff_leftRank (p o : Operator) :
    p.takesBefore o = true ↔ o.leftRank.level ≤ p.rank.level := by
  cases p <;> cases o <;> decide

theorem takesBefore_eq_false_iff (p o : Operator) :
    p.takesBefore o = false ↔ p.rightRank.level ≤ o.rank.level := by
  cases p <;> cases o <;> decide

end Operator

namespace Sentence

theorem weaken {q r : Rank} {ts : List Token} {t : Tree} (h : Sentence r ts t)
    (hq : q.level ≤ r.level) : Sentence q ts t := by
  cases r with
  | operand =>
    cases q with
    | operand => exact h
    | power => exact ofOperand h
    | product => exact ofPower (ofOperand h)
    | sum => exact ofProduct (ofPower (ofOperand h))
  | power =>
    cases q with
    | operand => exact absurd hq (by decide)
    | power => exact h
    | product => exact ofPower h
    | sum => exact ofProduct (ofPower h)
  | product =>
    cases q with
    | operand | power => exact absurd hq (by decide)
    | product => exact h
    | sum => exact ofProduct h
  | sum =>
    cases q with
    | operand | power | product => exact absurd hq (by decide)
    | sum => exact h

theorem toSum {r : Rank} {ts : List Token} {t : Tree} (h : Sentence r ts t) :
    Sentence .sum ts t :=
  h.weaken r.level_sum_le

theorem node (o : Operator) {ts us : List Token} {t u : Tree} (ht : Sentence o.leftRank ts t)
    (hu : Sentence o.rightRank us u) :
    Sentence o.rank (ts ++ .operator o :: us) (.node o t u) := by
  cases o with
  | plus => exact sum (.inl rfl) ht hu
  | minus => exact sum (.inr rfl) ht hu
  | times => exact product (.inl rfl) ht hu
  | divide => exact product (.inr rfl) ht hu
  | power => exact power ht hu

/-- Induction over sentences with the layers folded into one rule for operators. -/
@[elab_as_elim]
theorem induct {motive : Rank → List Token → Tree → Prop}
    (number : ∀ n, motive .operand [.number n] (.leaf n))
    (bracket : ∀ ts t, motive .sum ts t → motive .operand (.opening :: ts ++ [.closing]) t)
    (node : ∀ o ts us t u, motive (Operator.leftRank o) ts t → motive o.rightRank us u →
      motive o.rank (ts ++ .operator o :: us) (.node o t u))
    (weaken : ∀ q r ts t, q.level ≤ r.level → motive r ts t → motive q ts t)
    {r : Rank} {ts : List Token} {t : Tree} (h : Sentence r ts t) : motive r ts t := by
  induction h with
  | number n => exact number n
  | bracket _ ih => exact bracket _ _ ih
  | ofOperand _ ih => exact weaken _ _ _ _ (by decide) ih
  | power _ _ iht ihu => exact node .power _ _ _ _ iht ihu
  | ofPower _ ih => exact weaken _ _ _ _ (by decide) ih
  | product ho _ _ iht ihu =>
    rcases ho with rfl | rfl
    · exact node .times _ _ _ _ iht ihu
    · exact node .divide _ _ _ _ iht ihu
  | ofProduct _ ih => exact weaken _ _ _ _ (by decide) ih
  | sum ho _ _ iht ihu =>
    rcases ho with rfl | rfl
    · exact node .plus _ _ _ _ iht ihu
    · exact node .minus _ _ _ _ iht ihu

end Sentence

namespace Tree

/-- Read from its end a post-order needs no separator: it shows where it stops. -/
theorem eq_of_reverse_postorder_append (t u : Tree) (a b : List Token)
    (h : t.postorder.reverse ++ a = u.postorder.reverse ++ b) : t = u ∧ a = b := by
  induction t generalizing u a b with
  | leaf n =>
    cases u with
    | leaf m => simpa [postorder] using h
    | node p l' r' => simp [postorder] at h
  | node o l r ihl ihr =>
    cases u with
    | leaf m => simp [postorder] at h
    | node p l' r' =>
      simp only [postorder, List.reverse_append, List.reverse_cons, List.reverse_nil,
        List.nil_append, List.cons_append, List.append_assoc, List.cons.injEq,
        Token.operator.injEq] at h
      obtain ⟨rfl, hr⟩ := h
      obtain ⟨rfl, hl⟩ := ihr r' _ _ hr
      obtain ⟨rfl, rest⟩ := ihl l' _ _ hl
      exact ⟨rfl, rest⟩

theorem postorder_injective {t u : Tree} (h : t.postorder = u.postorder) : t = u :=
  (eq_of_reverse_postorder_append t u [] [] (by rw [h])).1

theorem postorder_eq_cons (t : Tree) : ∃ n rest, t.postorder = .number n :: rest := by
  induction t with
  | leaf n => exact ⟨n, [], rfl⟩
  | node o l r ihl ihr =>
    obtain ⟨n, rest, h⟩ := ihl
    exact ⟨n, rest ++ r.postorder ++ [.operator o], by simp [postorder, h]⟩

theorem postorder_node (o : Operator) (l r : Tree) :
    ∃ m n rest, (node o l r).postorder = .number m :: .number n :: rest := by
  induction l generalizing o r with
  | leaf m =>
    obtain ⟨n, rest, h⟩ := r.postorder_eq_cons
    exact ⟨m, n, rest ++ [.operator o], by simp [postorder, h]⟩
  | node p a b iha ihb =>
    obtain ⟨m, n, rest, h⟩ := iha p b
    exact ⟨m, n, rest ++ r.postorder ++ [.operator o], by rw [postorder, h]; simp⟩

end Tree

end IntegerCalculator
