import IntegerCalculator.Proofs.Calculation.Verdict

/-! Solutions with the steps that are shown for them. Behind the checks a solution
depends on the tokens alone, and the tokens of a sentence are solved by the value and
the post-order of its tree. -/

namespace IntegerCalculator.Calculation

def solution (ts : List Token) : Except Failure Solution := do
  let us ← Postfix.ofTokens ts
  let n ← Postfix.value us
  return ⟨n, Token.render ts, Token.render us⟩

theorem result_eq (s : Text) : result s = read s >>= solution := by
  rw [result_eq_attempt, attempt]
  cases read s with
  | error e => rfl
  | ok ts =>
    change _ = solution ts
    rw [solution]
    simp only [Logged.bind_value]
    cases Postfix.ofTokens ts with
    | error e => rfl
    | ok us =>
      change _ = Postfix.value us >>= fun n => _
      simp only [Logged.bind_value, Logged.pure_value]
      cases Postfix.value us <;> rfl

theorem result_of_check_error {s : Text} {e : Failure} (h : check s = .error e) :
    result s = .error e := by
  rw [result_eq, read_of_check_error h]
  rfl

theorem result_of_check {s : Text} (passed : check s = .ok ()) :
    result s = Token.ofText s >>= solution := by
  rw [result_eq, read_of_check passed]

theorem result_of_tokens {s : Text} {ts : List Token} (passed : check s = .ok ())
    (tokens : Token.ofText s = .ok ts) : result s = solution ts := by
  rw [result_of_check passed, tokens]
  rfl

/-- Without refused characters, a text comes to what its tokens and its brackets do. -/
theorem result_of_same {s t : Text} (clean : Alphabet.Clean s) (clean' : Alphabet.Clean t)
    (bare : Text.withoutBlanks s = Text.withoutBlanks t)
    (tokens : Token.ofText s = Token.ofText t) : result s = result t := by
  have checked : check s = check t := by
    rw [check, check, bare, (Alphabet.firstRefused?_eq_none_iff_clean s).2 clean,
      (Alphabet.firstRefused?_eq_none_iff_clean t).2 clean']
  rw [result_eq, result_eq, read, read, checked, tokens]

theorem value_of_result_error {s : Text} {e : Failure} (h : result s = .error e) :
    value s = .error e := by
  rw [value, h]
  rfl

theorem value_of_result {s : Text} {answer : Solution} (h : result s = .ok answer) :
    value s = .ok answer.value := by
  rw [value, h]
  rfl

theorem solution_of_sentence {ts : List Token} {t : Tree} (h : Sentence .sum ts t) :
    solution ts = t.value.map fun n => ⟨n, Token.render ts, Token.render t.postorder⟩ := by
  rw [solution, Postfix.ofTokens_of_sentence h]
  change Postfix.value t.postorder >>= (fun n => _) = _
  rw [Postfix.value_postorder]
  cases t.value <;> rfl

theorem exists_sentence_of_result {s : Text} {answer : Solution} (h : result s = .ok answer) :
    ∃ ts t, check s = .ok () ∧ Token.ofText s = .ok ts ∧ Sentence .sum ts t ∧
      t.value = .ok answer.value ∧
      answer.steps = ⟨Token.render ts, Token.render t.postorder⟩ := by
  obtain ⟨clean, balanced, ts, t, tokens, sentence, computed⟩ :=
    exists_sentence_of_value (value_of_result h)
  have passed := check_of_balanced clean balanced
  rw [result_of_tokens passed tokens, solution_of_sentence sentence, computed] at h
  have shown := congrArg Solution.steps (Except.ok.inj h)
  exact ⟨ts, t, passed, tokens, sentence, computed, shown.symm⟩

end IntegerCalculator.Calculation
