import IntegerCalculator.Proofs.Calculation.Diagnosis
import IntegerCalculator.Proofs.Calculation.Journal
import IntegerCalculator.Proofs.Calculation.Solution
import IntegerCalculator.Proofs.Rendering

/-! How far a calculation got, as its journal tells. A solution leaves its two steps and
no warning. A failure leaves one warning, and before it the stages that were passed: none
of a text that was not read, the tokens of one that is no expression, and both steps where
only the arithmetic failed. The warning belongs to one text and one failure. -/

namespace IntegerCalculator.Calculation

open Alphabet (Clean)
open IntegerCalculator.Bracket (Balanced)
open Token (Oversized)

theorem notes_of_check_error {s : Text} {e : Failure} (h : check s = .error e) : notes s = [] :=
  notes_of_read_error (read_of_check_error h)

theorem notes_of_oversized {s : Text} (clean : Clean s) (balanced : Balanced s)
    (large : Oversized s) : notes s = [] := by
  have unread := read_of_check (check_of_balanced clean balanced)
  rw [Token.ofText_of_oversized clean large] at unread
  exact notes_of_read_error unread

theorem notes_of_shapeless {s : Text} (clean : Clean s) (balanced : Balanced s)
    (shapeless : Shapeless s) :
    ∃ ts, Token.ofText s = .ok ts ∧ notes s = [note "jetons: " ts] := by
  obtain ⟨ts, tokens, none_derived⟩ := shapeless
  have read_tokens := read_of_check (check_of_balanced clean balanced)
  rw [tokens] at read_tokens
  exact ⟨ts, tokens,
    notes_of_refused read_tokens (malformed_of_balanced balanced tokens none_derived)⟩

theorem notes_of_sentence {s : Text} {ts : List Token} {t : Tree} (passed : check s = .ok ())
    (tokens : Token.ofText s = .ok ts) (sentence : Sentence .sum ts t) :
    notes s = [note "jetons: " ts, note "rpn: " t.postorder] := by
  have read_tokens := read_of_check passed
  rw [tokens] at read_tokens
  exact notes_of_converted read_tokens (Postfix.ofTokens_of_sentence sentence)

theorem notes_of_not_shapeless {s : Text} (clean : Clean s) (balanced : Balanced s)
    (small : ¬ Oversized s) (shaped : ¬ Shapeless s) :
    ∃ ts us, Token.ofText s = .ok ts ∧ Postfix.ofText s = .ok us ∧
      notes s = [note "jetons: " ts, note "rpn: " us] := by
  obtain ⟨ts, tokens⟩ := Token.ofText_of_small clean small
  obtain ⟨t, sentence⟩ : ∃ t, Sentence .sum ts t := by
    by_contra none_derived
    exact shaped ⟨ts, tokens, fun t sentence => none_derived ⟨t, sentence⟩⟩
  exact ⟨ts, t.postorder, tokens, Postfix.ofText_of_sentence tokens sentence,
    notes_of_sentence (check_of_balanced clean balanced) tokens sentence⟩

/-- For each result the whole journal; an overflow is that of a number as typed or one of
the arithmetic, and leaves different stages. No other text and no other failure would leave
the same warning. -/
theorem journal_tells_how_far (s : Text) :
    (∀ answer, result s = .ok answer →
      (solve s).records =
        [⟨.debug, .calculation, "jetons: ".toList ++ answer.steps.tokens⟩,
          ⟨.debug, .calculation, "rpn: ".toList ++ answer.steps.converted⟩]) ∧
    (∀ c position, result s = .error (.invalidCharacter c position) →
      (solve s).records = [warning s (.invalidCharacter c position)]) ∧
    (result s = .error .unmatchedBracket →
      (solve s).records = [warning s .unmatchedBracket]) ∧
    (result s = .error .malformedExpression → ∃ ts, Token.ofText s = .ok ts ∧
      (solve s).records = [note "jetons: " ts, warning s .malformedExpression]) ∧
    (result s = .error .overflow → Oversized s → (solve s).records = [warning s .overflow]) ∧
    (∀ e, e = .divisionByZero ∨ e = .negativeExponent ∨ e = .overflow ∧ ¬ Oversized s →
      result s = .error e → ∃ ts us, Token.ofText s = .ok ts ∧ Postfix.ofText s = .ok us ∧
        (solve s).records = [note "jetons: " ts, note "rpn: " us, warning s e]) ∧
    (∀ c, result s ≠ .error (.unexpectedToken c)) ∧
    ∀ e t f, warning s e = warning t f → s = t ∧ e = f := by
  refine ⟨fun answer solved => ?_, fun c position failed => ?_, fun failed => ?_,
    fun failed => ?_, fun failed large => ?_, fun e arithmetic failed => ?_, fun c failed => ?_,
    fun e t f same => warning_inj same⟩
  · obtain ⟨ts, t, passed, tokens, sentence, -, shown⟩ := exists_sentence_of_result solved
    rw [records_of_result solved, notes_of_sentence passed tokens sentence, shown]
    rfl
  · have first := (value_eq_invalidCharacter_iff s c position).1 (value_of_result_error failed)
    rw [records_of_result_error failed, notes_of_check_error (check_of_firstRefused first)]
    rfl
  · obtain ⟨clean, unmatched⟩ := (value_eq_unmatchedBracket_iff s).1 (value_of_result_error failed)
    rw [records_of_result_error failed, notes_of_check_error (check_of_unmatched clean unmatched)]
    rfl
  · obtain ⟨clean, balanced, -, shapeless⟩ :=
      (value_eq_malformedExpression_iff s).1 (value_of_result_error failed)
    obtain ⟨ts, tokens, stages⟩ := notes_of_shapeless clean balanced shapeless
    exact ⟨ts, tokens, by rw [records_of_result_error failed, stages]; rfl⟩
  · -- An overflow has two causes, and the size of the numbers tells them apart.
    cases cause_of_value (value_of_result_error failed) with
    | oversized clean balanced _ =>
      rw [records_of_result_error failed, notes_of_oversized clean balanced large]
      rfl
    | arithmetic _ _ _ small _ => exact absurd large small
  · cases cause_of_value (value_of_result_error failed) with
    | refused | unmatched | shapeless => simp at arithmetic
    | oversized _ _ large => simp [large] at arithmetic
    | arithmetic _ clean balanced small shaped =>
      obtain ⟨ts, us, tokens, order, stages⟩ := notes_of_not_shapeless clean balanced small shaped
      exact ⟨ts, us, tokens, order, by rw [records_of_result_error failed, stages]; rfl⟩
  · exact value_ne_unexpectedToken s c (value_of_result_error failed)

theorem journal_of_zero_divisor_and_quote :
    result "5/0".toList = .error .divisionByZero ∧
    (solve "5/0".toList).records =
      [⟨.debug, .calculation, "jetons: 5 / 0".toList⟩,
        ⟨.debug, .calculation, "rpn: 5 0 /".toList⟩,
        ⟨.warn, .calculation, "échec d’évaluation de \"5/0\": division par zéro".toList⟩] ∧
    result "1\t+\"é\u200b".toList = .error (.invalidCharacter '\"' 3) ∧
    (solve "1\t+\"é\u200b".toList).records =
      [⟨.warn, .calculation,
        ("échec d’évaluation de \"1\\t+\\\"é\\u\x7b200b\x7d\": " ++
          "caractère invalide '\"' (position 3)").toList⟩] := by
  have divided : result "5/0".toList = .error .divisionByZero := by decide
  have typed : result "1\t+\"é\u200b".toList = .error (.invalidCharacter '\"' 3) := by decide
  obtain ⟨-, -, -, -, -, arithmetic, -⟩ := journal_tells_how_far "5/0".toList
  obtain ⟨ts, us, tokens, order, stages⟩ := arithmetic .divisionByZero (.inl rfl) divided
  have read : Token.ofText "5/0".toList = .ok [.number 5, .operator .divide, .number 0] := rfl
  have converted :
      Postfix.ofText "5/0".toList = .ok [.number 5, .number 0, .operator .divide] := rfl
  obtain rfl := Except.ok.inj (tokens.symm.trans read)
  obtain rfl := Except.ok.inj (order.symm.trans converted)
  obtain ⟨-, refused, -⟩ := journal_tells_how_far "1\t+\"é\u200b".toList
  exact ⟨divided, stages.trans (by decide), typed,
    (refused '\"' 3 typed).trans (by decide +kernel)⟩

end IntegerCalculator.Calculation
