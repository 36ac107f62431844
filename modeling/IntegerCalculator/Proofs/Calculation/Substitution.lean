import IntegerCalculator.Proofs.Calculation.Verdict
import IntegerCalculator.Proofs.Conversion.Operand

/-! An expression in brackets may be replaced by its value. What stands around an
operand is read without looking at the operand, so the two texts meet the same
fate before it and after it; in between the one leaves the value of a tree on the
stack and the other a number. -/

namespace IntegerCalculator

open Alphabet (Clean clean_bracketed)
open IntegerCalculator.Bracket (Balanced depthAfter?)
open Token (clean_decimal)

namespace Postfix

theorem value_of_equal_run {order order' : List Token}
    (h : ∀ stack, run stack order = run stack order') (before after : List Token) :
    value (before ++ order ++ after) = value (before ++ order' ++ after) := by
  have same : run [] (before ++ order) = run [] (before ++ order') := by
    rw [run_append, run_append]
    exact congrArg _ (funext h)
  have whole : run [] (before ++ order ++ after) = run [] (before ++ order' ++ after) := by
    rw [run_append, same, ← run_append]
  rw [value, value, whole]

/-- A bracketed sentence among tokens may be replaced by its value. -/
theorem value_ofTokens_bracketed {ts : List Token} {t : Tree} {n : Int64}
    (sentence : Sentence .sum ts t) (computed : t.value = .ok n) (before after : List Token) :
    ofTokens (before ++ (.opening :: ts ++ [.closing]) ++ after) >>= value =
      ofTokens (before ++ [.number n] ++ after) >>= value := by
  rw [(Conversion.operand_bracketed sentence).ofTokens, (Conversion.operand_number n).ofTokens]
  have equal_run (stack : Stack) : run stack t.postorder = run stack [.number n] := by
    rw [run_postorder, computed]
    rfl
  cases Conversion.around before after with
  | error e => rfl
  | ok r => exact value_of_equal_run equal_run r.1 r.2

end Postfix

namespace Calculation

theorem value_around {pre m post : Text} {ms : List Token} (before : Clean pre) (part : Clean m)
    (after : Clean post) (matched : ∀ depth, depthAfter? depth m = some depth)
    (tokens : Token.ofText m = .ok ms) (left : ¬ Lexeme.DigitsMeet pre m)
    (right : ¬ Lexeme.DigitsMeet (pre ++ m) post) :
    value (pre ++ m ++ post) =
      if Bracket.balanced (pre ++ post) then do
        let ps ← Token.ofText pre
        let qs ← Token.ofText post
        Postfix.ofTokens (ps ++ ms ++ qs) >>= Postfix.value
      else .error .unmatchedBracket := by
  have clean : Clean (pre ++ m ++ post) := by
    rw [Alphabet.clean_append_iff, Alphabet.clean_append_iff]
    exact ⟨⟨before, part⟩, after⟩
  have checked := check_of_clean clean
  rw [Bracket.balanced_around matched] at checked
  cases balanced : Bracket.balanced (pre ++ post) with
  | false =>
    rw [balanced] at checked
    exact value_of_check_error checked
  | true =>
    rw [balanced] at checked
    rw [value_of_check checked, Token.ofText_append right, Token.ofText_append left, tokens]
    cases Token.ofText pre with
    | error e => rfl
    | ok ps =>
      cases Token.ofText post with
      | error e => rfl
      | ok qs => rfl

theorem depthAfter?_decimal {n : Int64} (nonneg : 0 ≤ n) (depth : Nat) :
    depthAfter? depth (Text.decimal n.toInt) = some depth := by
  apply Bracket.depthAfter?_of_no_bracket
  intro c hc
  exact Bracket.not_isBracket_of_isDigit (Token.isDigit_of_mem_decimal nonneg hc)

/-- Replacing a bracketed expression by its value changes nothing, not even the fault
of a text that has one elsewhere. -/
theorem value_bracketed {pre e post : Text} {n : Int64} (before : Clean pre) (after : Clean post)
    (last : ∀ c, pre.getLast? = some c → c.isDigit = false)
    (head : ∀ c, post.head? = some c → c.isDigit = false)
    (computed : value e = .ok n) (nonneg : 0 ≤ n) :
    value (pre ++ '(' :: e ++ ')' :: post) = value (pre ++ Text.decimal n.toInt ++ post) := by
  obtain ⟨clean, balanced, ts, t, tokens, sentence, value_eq⟩ := exists_sentence_of_value computed
  have matched : Balanced ('(' :: e ++ ')' :: []) := .pair balanced .empty
  have bracketed := value_around before (clean_bracketed clean) after matched.depthAfter?
    (Token.ofText_bracketed tokens) (Lexeme.not_digitsMeet_of_last last _)
    (Lexeme.not_digitsMeet_of_head head _)
  have replaced := value_around before (clean_decimal nonneg) after (depthAfter?_decimal nonneg)
    (Token.ofText_decimal nonneg) (Lexeme.not_digitsMeet_of_last last _)
    (Lexeme.not_digitsMeet_of_head head _)
  have shape : pre ++ '(' :: e ++ ')' :: post = pre ++ ('(' :: e ++ [')']) ++ post := by simp
  rw [shape, bracketed, replaced]
  simp only [Postfix.value_ofTokens_bracketed sentence value_eq]

theorem value_bracketed_exponent :
    value "1+2".toList = .ok 3 ∧
      value ("2^".toList ++ '(' :: "1+2".toList ++ ')' :: " *4".toList) =
        value ("2^".toList ++ Text.decimal (3 : Int64).toInt ++ " *4".toList) ∧
      value "2^3 *4".toList = .ok 32 := by
  have computed : value "1+2".toList = .ok 3 := by decide
  have last (c : Char) (h : "2^".toList.getLast? = some c) : c.isDigit = false := by
    obtain rfl := Option.some.inj h
    rfl
  have head (c : Char) (h : " *4".toList.head? = some c) : c.isDigit = false := by
    obtain rfl := Option.some.inj h
    rfl
  have replaced := value_bracketed (by decide) (by decide) last head computed (by decide)
  exact ⟨computed, replaced, by decide +kernel⟩

end Calculation

end IntegerCalculator
