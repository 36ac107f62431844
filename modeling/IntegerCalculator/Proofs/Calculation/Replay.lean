import IntegerCalculator.Proofs.Calculation.Solution
import IntegerCalculator.Proofs.Rendering

/-! The steps that are shown with a value. The tokens, typed again, give the same value
with the same steps; the converted order reads as the order that was computed. Only as
an expression the converted order has no value, unless it is a single number. -/

namespace IntegerCalculator.Calculation

open IntegerCalculator.Bracket (depthAfter?)
open Token (Unsigned)

theorem check_render {ts : List Token} (unsigned : Unsigned ts)
    (matched : depthAfter? 0 (ts.filterMap Token.bracket?) = some 0) :
    check (Token.render ts) = .ok () :=
  check_of_balanced (Token.clean_render unsigned) ((Token.balanced_render_iff unsigned).2 matched)

theorem result_render {ts : List Token} {t : Tree} (sentence : Sentence .sum ts t)
    (unsigned : Unsigned ts) : result (Token.render ts) = solution ts :=
  result_of_tokens (check_render unsigned (sentence.depthAfter?_filterMap 0))
    (Token.ofText_render unsigned)

theorem value_render_postorder {ts : List Token} {t : Tree} (sentence : Sentence .sum ts t)
    (unsigned : Unsigned ts) {o : Operator} (ho : .operator o ∈ ts) :
    value (Token.render t.postorder) = .error .malformedExpression := by
  have shown : Unsigned t.postorder := sentence.unsigned_postorder_iff.2 unsigned
  have passed : check (Token.render t.postorder) = .ok () :=
    check_render shown (by rw [sentence.filterMap_bracket?_postorder]; rfl)
  have inner := (sentence.mem_postorder_iff (.operator o)).2 ⟨ho, rfl⟩
  rw [value_of_tokens passed (Token.ofText_render shown)]
  cases t with
  | leaf n => simp [Tree.postorder] at inner
  | node p l r =>
    rw [Postfix.ofTokens_postorder_node]
    rfl

theorem result_steps_tokens {s : Text} {answer : Solution} (solved : result s = .ok answer) :
    result answer.steps.tokens = .ok answer := by
  obtain ⟨ts, t, passed, tokens, sentence, -, shown⟩ := exists_sentence_of_result solved
  have again := result_render sentence (Token.unsigned_of_ofText tokens)
  rw [shown, again, ← result_of_tokens passed tokens, solved]

theorem steps_replay :
    (∀ ts, Unsigned ts → Token.ofText (Token.render ts) = .ok ts) ∧
      ∀ s answer, result s = .ok answer →
        result answer.steps.tokens = .ok answer ∧
        (∃ order, Token.ofText answer.steps.converted = .ok order ∧
          Postfix.ofText s = .ok order ∧ Postfix.value order = .ok answer.value) ∧
        ((∃ o : Operator, o.symbol ∈ s) →
          value answer.steps.converted = .error .malformedExpression) := by
  refine ⟨fun ts => Token.ofText_render, fun s answer solved => ?_⟩
  obtain ⟨ts, t, passed, tokens, sentence, computed, shown⟩ := exists_sentence_of_result solved
  have unsigned := Token.unsigned_of_ofText tokens
  rw [shown]
  refine ⟨?_, ⟨t.postorder, ?_, ?_, ?_⟩, ?_⟩
  · rw [result_render sentence unsigned, ← result_of_tokens passed tokens, solved]
  · exact Token.ofText_render (sentence.unsigned_postorder_iff.2 unsigned)
  · exact Postfix.ofText_of_sentence tokens sentence
  · rw [Postfix.value_postorder, computed]
  · rintro ⟨o, ho⟩
    exact value_render_postorder sentence unsigned (Token.operator_mem_of_symbol_mem tokens ho)

theorem steps_replay_leading_zeros :
    Unsigned [.number 3, .number 3] ∧
      Token.ofText (Token.render [.number 3, .number 3]) = .ok [.number 3, .number 3] ∧
      result "007-2^2".toList = .ok ⟨3, "7 - 2 ^ 2".toList, "7 2 2 ^ -".toList⟩ ∧
      result "7 - 2 ^ 2".toList = .ok ⟨3, "7 - 2 ^ 2".toList, "7 2 2 ^ -".toList⟩ ∧
      (∃ order, Token.ofText "7 2 2 ^ -".toList = .ok order ∧
        Postfix.ofText "007-2^2".toList = .ok order ∧ Postfix.value order = .ok 3) ∧
      value "7 2 2 ^ -".toList = .error .malformedExpression := by
  have unsigned : Unsigned [.number 3, .number 3] := by
    intro n hn
    simp only [List.mem_cons, Token.number.injEq, List.not_mem_nil, or_false, or_self] at hn
    rw [hn]
    decide
  have solved : result "007-2^2".toList =
      .ok ⟨3, "7 - 2 ^ 2".toList, "7 2 2 ^ -".toList⟩ := by decide +kernel
  obtain ⟨again, order, malformed⟩ := steps_replay.2 _ _ solved
  exact ⟨unsigned, steps_replay.1 _ unsigned, solved, again, order,
    malformed ⟨.minus, by decide⟩⟩

end IntegerCalculator.Calculation
