import IntegerCalculator.Proofs.Calculation.Diagnosis
import IntegerCalculator.Proofs.Rendering

/-! The checks before reading, against a calculation that makes none. Whatever can be
read and converted has no refused character and matched brackets already, so the checks
decide which failure is reported and never whether there is a value. -/

namespace IntegerCalculator

open Alphabet (permitsAll)
open IntegerCalculator.Bracket (balanced)

namespace Calculation

def unchecked (s : Text) : Except Failure Int64 := do
  Postfix.value (← Postfix.ofText s)

theorem unchecked_eq (s : Text) :
    unchecked s = Token.ofText s >>= Postfix.ofTokens >>= Postfix.value := rfl

theorem check_eq_ok_iff_guards (s : Text) :
    check s = .ok () ↔
      permitsAll (Text.withoutBlanks s) = true ∧ balanced (Text.withoutBlanks s) = true := by
  rw [check_eq_ok_iff, ← Alphabet.firstRefused?_eq_none_iff_clean,
    Alphabet.firstRefused?_eq_none_iff, Bracket.balanced_withoutBlanks,
    Bracket.balanced_eq_true_iff]

theorem value_of_checked {s : Text} (passed : check s = .ok ()) : value s = unchecked s := by
  rw [unchecked_eq, value_of_check passed]

/-- A text with a value passes the checks, even if they are not made. -/
theorem check_of_unchecked {s : Text} {n : Int64} (h : unchecked s = .ok n) :
    check s = .ok () := by
  obtain ⟨order, converted, -⟩ := bind_eq_ok_iff.1 h
  obtain ⟨ts, t, tokens, sentence, -⟩ := Postfix.exists_sentence_of_ofText converted
  exact check_of_balanced (Token.clean_of_ofText tokens) (sentence.balanced_of_ofText tokens)

theorem unchecked_error_of_check {s : Text} (refused : check s ≠ .ok ()) :
    ∃ e, unchecked s = .error e := by
  cases computed : unchecked s with
  | error e => exact ⟨e, rfl⟩
  | ok n => exact absurd (check_of_unchecked computed) refused

theorem checks_choose_the_failure (s : Text) :
    (permitsAll (Text.withoutBlanks s) = true → balanced (Text.withoutBlanks s) = true →
      value s = unchecked s ∧ (∀ c, unchecked s ≠ .error (.unexpectedToken c)) ∧
        unchecked s ≠ .error .unmatchedBracket) ∧
    (permitsAll (Text.withoutBlanks s) = false ∨ balanced (Text.withoutBlanks s) = false →
      ∃ e, unchecked s = .error e) ∧
    ∀ n, value s = .ok n ↔ unchecked s = .ok n := by
  refine ⟨fun permitted matched => ?_, fun refused => ?_, fun n => ⟨fun h => ?_, fun h => ?_⟩⟩
  · have passed := (check_eq_ok_iff_guards s).2 ⟨permitted, matched⟩
    have same := value_of_checked passed
    have balanced := ((check_eq_ok_iff s).1 passed).2
    rw [← same, Ne, value_eq_unmatchedBracket_iff]
    exact ⟨rfl, value_ne_unexpectedToken s, fun unmatched => unmatched.2 balanced⟩
  · apply unchecked_error_of_check
    rw [Ne, check_eq_ok_iff_guards]
    rintro ⟨permitted, matched⟩
    rcases refused with refused | refused
    · rw [permitted] at refused
      contradiction
    · rw [matched] at refused
      contradiction
  · obtain ⟨clean, balanced, -⟩ := exists_sentence_of_value h
    rwa [← value_of_checked (check_of_balanced clean balanced)]
  · rwa [value_of_checked (check_of_unchecked h)]

theorem checks_choose_the_failure_open_bracket :
    permitsAll (Text.withoutBlanks "(2 3".toList) = true ∧
      balanced (Text.withoutBlanks "(2 3".toList) = false ∧
      value "(2 3".toList = .error .unmatchedBracket ∧
      unchecked "(2 3".toList = .error .malformedExpression ∧
      (∃ e, unchecked "(2 3".toList = .error e) ∧
      value "(0-6)/4".toList = unchecked "(0-6)/4".toList ∧
      unchecked "(0-6)/4".toList = .ok (-1) := by
  have unmatched : balanced (Text.withoutBlanks "(2 3".toList) = false := by decide
  have refused := (checks_choose_the_failure "(2 3".toList).2.1 (.inr unmatched)
  have accepted := (checks_choose_the_failure "(0-6)/4".toList).1 (by decide) (by decide)
  exact ⟨by decide, unmatched, by decide, by decide, refused, accepted.1, by decide +kernel⟩

end Calculation

end IntegerCalculator
