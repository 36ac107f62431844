import IntegerCalculator.Proofs.Calculation.Replay

/-! Trees written with operators between their operands. An operand needs brackets
exactly where the grammar asks for a higher rank than it has, so with all brackets or
with the needed ones only, what is written is a sentence of the tree; and every
post-order of unsigned numbers is the converted order of such a text. -/

namespace IntegerCalculator

namespace Tree

/-- The rank of a tree that is written without brackets around it. -/
def outerRank : Tree → Rank
  | leaf _ => .operand
  | node o _ _ => o.rank

theorem needsBracketLeft_eq_false_iff (o : Operator) (t : Tree) :
    t.needsBracketLeft o = false ↔ o.leftRank.level ≤ t.outerRank.level := by
  cases t with
  | leaf n => simp [needsBracketLeft, outerRank, Rank.level_le_operand]
  | node p l r =>
    simp only [needsBracketLeft, outerRank]
    cases o <;> cases p <;> decide

theorem needsBracketRight_eq_false_iff (o : Operator) (t : Tree) :
    t.needsBracketRight o = false ↔ o.rightRank.level ≤ t.outerRank.level := by
  cases t with
  | leaf n => simp [needsBracketRight, outerRank, Rank.level_le_operand]
  | node p l r =>
    simp only [needsBracketRight, outerRank]
    cases o <;> cases p <;> decide

theorem sentence_enclose_if {needs : Bool} {q r : Rank} {ts : List Token} {t : Tree}
    (enough : needs = false → q.level ≤ r.level) (h : Sentence r ts t) :
    Sentence q (if needs then enclose ts else ts) t := by
  cases needs with
  | true => exact (Sentence.bracket h.toSum).weaken q.level_le_operand
  | false => exact h.weaken (enough rfl)

theorem sentence_sparse (t : Tree) : Sentence t.outerRank t.sparse t := by
  induction t with
  | leaf n => exact .number n
  | node o l r ihl ihr =>
    exact .node o (sentence_enclose_if (needsBracketLeft_eq_false_iff o l).1 ihl)
      (sentence_enclose_if (needsBracketRight_eq_false_iff o r).1 ihr)

theorem sentence_bracketed (t : Tree) : Sentence .operand t.bracketed t := by
  induction t with
  | leaf n => exact .number n
  | node o l r ihl ihr =>
    have inner := Sentence.node o (ihl.weaken o.leftRank.level_le_operand)
      (ihr.weaken o.rightRank.level_le_operand)
    exact .bracket inner.toSum

theorem number_mem_postorder_iff (t : Tree) (n : Int64) :
    .number n ∈ t.postorder ↔ n ∈ t.leaves := by
  induction t with
  | leaf m => simp [postorder, leaves]
  | node o l r ihl ihr => simp [postorder, leaves, ihl, ihr]

theorem unsigned_postorder_iff (t : Tree) :
    Token.Unsigned t.postorder ↔ ∀ n ∈ t.leaves, 0 ≤ n := by
  simp only [Token.Unsigned, number_mem_postorder_iff]

end Tree

namespace Calculation

theorem of_render_sentence {ts : List Token} {t : Tree} (sentence : Sentence .sum ts t)
    (nonneg : ∀ n ∈ t.leaves, 0 ≤ n) :
    Postfix.ofText (Token.render ts) = .ok t.postorder ∧ value (Token.render ts) = t.value := by
  have unsigned : Token.Unsigned ts :=
    sentence.unsigned_postorder_iff.1 (t.unsigned_postorder_iff.2 nonneg)
  have tokens := Token.ofText_render unsigned
  have passed := check_render unsigned (sentence.depthAfter?_filterMap 0)
  exact ⟨Postfix.ofText_of_sentence tokens sentence, value_of_sentence passed tokens sentence⟩

theorem exists_tree_of_ofText {s : Text} {order : List Token}
    (h : Postfix.ofText s = .ok order) :
    ∃ t : Tree, (∀ n ∈ t.leaves, 0 ≤ n) ∧ t.postorder = order := by
  obtain ⟨ts, t, tokens, sentence, shape⟩ := Postfix.exists_sentence_of_ofText h
  have unsigned := sentence.unsigned_postorder_iff.2 (Token.unsigned_of_ofText tokens)
  exact ⟨t, t.unsigned_postorder_iff.1 unsigned, shape⟩

theorem infix_reads_back :
    (∀ t : Tree, (∀ n ∈ t.leaves, 0 ≤ n) →
      Postfix.ofText (Token.render t.bracketed) = .ok t.postorder ∧
      Postfix.ofText (Token.render t.sparse) = .ok t.postorder ∧
      value (Token.render t.bracketed) = value (Token.render t.sparse) ∧
      value (Token.render t.sparse) = t.value) ∧
    ∀ order, (∃ s, Postfix.ofText s = .ok order) ↔
      ∃ t : Tree, (∀ n ∈ t.leaves, 0 ≤ n) ∧ t.postorder = order := by
  refine ⟨fun t nonneg => ?_, fun order => ⟨?_, ?_⟩⟩
  · obtain ⟨order, computed⟩ := of_render_sentence t.sentence_bracketed.toSum nonneg
    obtain ⟨order', computed'⟩ := of_render_sentence t.sentence_sparse.toSum nonneg
    exact ⟨order, order', computed.trans computed'.symm, computed'⟩
  · rintro ⟨s, converted⟩
    exact exists_tree_of_ofText converted
  · rintro ⟨t, nonneg, rfl⟩
    exact ⟨_, (of_render_sentence t.sentence_sparse.toSum nonneg).1⟩

theorem infix_reads_back_powers :
    (∀ n ∈ (Tree.node .power (.node .power (.leaf 2) (.leaf 3)) (.leaf 2)).leaves, 0 ≤ n) ∧
      Postfix.ofText "( ( 2 ^ 3 ) ^ 2 )".toList =
        .ok [.number 2, .number 3, .operator .power, .number 2, .operator .power] ∧
      Postfix.ofText "( 2 ^ 3 ) ^ 2".toList =
        .ok [.number 2, .number 3, .operator .power, .number 2, .operator .power] ∧
      value "( ( 2 ^ 3 ) ^ 2 )".toList = value "( 2 ^ 3 ) ^ 2".toList ∧
      value "( 2 ^ 3 ) ^ 2".toList = .ok 64 := by
  have nonneg : ∀ n ∈ (Tree.node .power (.node .power (.leaf 2) (.leaf 3)) (.leaf 2)).leaves,
      0 ≤ n := by simp [Tree.leaves]
  have bracketed : Token.render
      (Tree.node .power (.node .power (.leaf 2) (.leaf 3)) (.leaf 2)).bracketed =
        "( ( 2 ^ 3 ) ^ 2 )".toList := by decide +kernel
  have sparse : Token.render
      (Tree.node .power (.node .power (.leaf 2) (.leaf 3)) (.leaf 2)).sparse =
        "( 2 ^ 3 ) ^ 2".toList := by decide +kernel
  have computed : (Tree.node .power (.node .power (.leaf 2) (.leaf 3)) (.leaf 2)).value =
      .ok 64 := by decide +kernel
  have reads := infix_reads_back.1 _ nonneg
  rw [bracketed, sparse, computed] at reads
  exact ⟨nonneg, reads⟩

end Calculation

end IntegerCalculator
