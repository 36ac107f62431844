import IntegerCalculator.Proofs.Calculation.Diagnosis
import IntegerCalculator.Proofs.Calculation.Solution

/-! Blanks between the characters of a text. A blank that is put in changes neither
value nor steps nor failure, except that a refused character behind it is counted one
place later; only within a number does it matter, because it leaves two numbers there. -/

namespace IntegerCalculator

open Lexeme (DigitsMeet)

namespace Token

theorem ofText_of_digitsMeet {s t : Text} {ts : List Token} (meet : DigitsMeet s t)
    (tokens : ofText (s ++ t) = .ok ts) :
    ∃ before after n m k, ts = before ++ .number n :: after ∧
      ofText s = .ok (before ++ [.number m]) ∧ ofText t = .ok (.number k :: after) := by
  obtain ⟨s, left, right, t, rfl, rfl, notNil, notNil', digits, apart, apart'⟩ :=
    Lexeme.exists_digits_of_digitsMeet meet
  have digitsLeft (c : Char) (hc : c ∈ left) : c.isDigit = true :=
    digits c (List.mem_append_left right hc)
  have digitsRight (c : Char) (hc : c ∈ right) : c.isDigit = true :=
    digits c (List.mem_append_right left hc)
  have nonempty : left ++ right ≠ [] := by simp [notNil]
  have start : ¬ DigitsMeet s (left ++ right ++ t) := by
    rwa [List.append_assoc, Lexeme.digitsMeet_append_right notNil]
  have stop : ¬ DigitsMeet (left ++ right) t := by
    rwa [Lexeme.digitsMeet_append_left notNil']
  have whole : s ++ left ++ (right ++ t) = s ++ (left ++ right ++ t) := by simp
  rw [whole, ofText_append_eq_ok_iff start] at tokens
  obtain ⟨before, rest, readBefore, readRest, rfl⟩ := tokens
  obtain ⟨number, after, readNumber, readAfter, rfl⟩ :=
    (ofText_append_eq_ok_iff stop rest).1 readRest
  obtain ⟨n, exact, rfl⟩ := (ofText_digits_eq_ok_iff nonempty digits number).1 readNumber
  -- The whole number fits, and neither part of it is larger.
  obtain ⟨le, le'⟩ := Text.digitsValue_le_append left right
  obtain ⟨m, readLeft⟩ := ofText_digits_of_le notNil digitsLeft (n := n) (by omega)
  obtain ⟨k, readRight⟩ := ofText_digits_of_le notNil' digitsRight (n := n) (by omega)
  refine ⟨before, after, n, m, k, rfl, ?_, ?_⟩
  · exact (ofText_append_eq_ok_iff apart _).2 ⟨_, _, readBefore, readLeft, rfl⟩
  · exact (ofText_append_eq_ok_iff apart' _).2 ⟨_, _, readRight, readAfter, rfl⟩

end Token

namespace Postfix

theorem ofTokens_of_split {before after out : List Token} {n : Int64}
    (accepted : ofTokens (before ++ .number n :: after) = .ok out) (m k : Int64)
    (after' : List Token) :
    ofTokens (before ++ .number m :: .number k :: after') = .error .malformedExpression := by
  obtain ⟨s, ran, -⟩ := exists_run_of_ofTokens accepted
  obtain ⟨start, reached, ran⟩ := Conversion.exists_of_run_append ran
  obtain ⟨next, stepped, -⟩ := Conversion.exists_of_run_cons ran
  have expects : start.expectsOperand = true := by
    cases Conversion.steps_of_step stepped with
    | number _ expects => exact expects
  have first := Conversion.step_number expects m
  have second := Conversion.step_of_juxtaposed first (b := .number k) rfl rfl
  apply ofTokens_of_run_error
  rw [Conversion.run_append_ok reached, Conversion.run_cons_ok first,
    Conversion.run_cons_error second]

end Postfix

/-- The failure of a text into which one more character is put at `cut`. -/
def Failure.shifted (cut : Nat) : Failure → Failure
  | .invalidCharacter c position =>
      .invalidCharacter c (if cut ≤ position then position + 1 else position)
  | e => e

namespace Calculation

theorem check_insert_blank {w : Char} (blank : Text.isBlank w = true) (a b : Text) :
    check (a ++ w :: b) = (check (a ++ b)).mapError (Failure.shifted a.length) := by
  have same : Text.withoutBlanks (a ++ w :: b) = Text.withoutBlanks (a ++ b) := by
    simp [Text.withoutBlanks, blank]
  rw [check, check, Alphabet.firstRefused?_insert (Alphabet.not_refused_of_isBlank blank), same]
  cases Alphabet.firstRefused? (a ++ b) with
  | some r => rfl
  | none => cases Bracket.balanced (Text.withoutBlanks (a ++ b)) <;> rfl

theorem mapError_shifted {s : Text} (passed : check s = .ok ()) (cut : Nat) :
    (result s).mapError (Failure.shifted cut) = result s := by
  cases computed : result s with
  | ok answer => rfl
  | error e =>
    have clean := ((check_eq_ok_iff s).1 passed).1
    cases cause_of_value (value_of_result_error computed) with
    | refused first => exact absurd clean (not_clean_of_firstRefused first)
    | unmatched | oversized | shapeless => rfl
    | arithmetic fault => rcases fault with rfl | rfl | rfl <;> rfl

/-- Outside of numbers a blank leaves the result as it is, up to the place of a refused
character; within a number of an expression that has a value it makes the text malformed. -/
theorem result_insert_blank (a b : Text) {w : Char} (blank : Text.isBlank w = true) :
    (¬ DigitsMeet a b →
      result (a ++ w :: b) = (result (a ++ b)).mapError (Failure.shifted a.length)) ∧
    (DigitsMeet a b → ∀ answer, result (a ++ b) = .ok answer →
      result (a ++ w :: b) = .error .malformedExpression) := by
  have checked := check_insert_blank blank a b
  refine ⟨fun apart => ?_, fun meet answer solved => ?_⟩
  · cases passed : check (a ++ b) with
    | error e =>
      rw [passed] at checked
      rw [result_of_check_error passed, result_of_check_error checked]
      rfl
    | ok _ =>
      rw [passed] at checked
      rw [mapError_shifted passed, result_of_check passed, result_of_check checked,
        Token.ofText_insert_blank blank, Token.ofText_append apart]
  · -- In place of one number there are two, side by side.
    obtain ⟨ts, t, passed, tokens, sentence, -, -⟩ := exists_sentence_of_result solved
    rw [passed] at checked
    obtain ⟨before, after, n, m, k, rfl, left, right⟩ := Token.ofText_of_digitsMeet meet tokens
    have accepted := Postfix.ofTokens_of_sentence sentence
    have refused := Postfix.ofTokens_of_split accepted m k after
    have split : Token.ofText (a ++ w :: b) = .ok (before ++ .number m :: .number k :: after) := by
      rw [Token.ofText_insert_blank blank, left, right]
      simp [bind, Except.bind, pure, Except.pure]
    rw [result_of_tokens checked split, solution, refused]
    rfl

theorem result_insert_blank_ideographic :
    Text.isBlank '\u3000' = true ∧
      ¬ DigitsMeet "1+".toList "x".toList ∧
      result ("1+".toList ++ '\u3000' :: "x".toList) =
        (result ("1+".toList ++ "x".toList)).mapError (Failure.shifted 2) ∧
      result ("1+".toList ++ "x".toList) = .error (.invalidCharacter 'x' 2) ∧
      DigitsMeet "2*1".toList "0".toList ∧
      result ("2*1".toList ++ "0".toList) =
        .ok ⟨20, "2 * 10".toList, "2 10 *".toList⟩ ∧
      result ("2*1".toList ++ '\u3000' :: "0".toList) = .error .malformedExpression := by
  have blank : Text.isBlank '\u3000' = true := by decide
  have last (c : Char) (h : "1+".toList.getLast? = some c) : c.isDigit = false := by
    obtain rfl := Option.some.inj h
    rfl
  have apart : ¬ DigitsMeet "1+".toList "x".toList := Lexeme.not_digitsMeet_of_last last _
  have meet : DigitsMeet "2*1".toList "0".toList := ⟨'1', '0', by decide⟩
  have solved : result ("2*1".toList ++ "0".toList) =
      .ok ⟨20, "2 * 10".toList, "2 10 *".toList⟩ := by decide +kernel
  exact ⟨blank, apart, (result_insert_blank _ _ blank).1 apart, by decide +kernel, meet, solved,
    (result_insert_blank _ _ blank).2 meet _ solved⟩

end Calculation

end IntegerCalculator
