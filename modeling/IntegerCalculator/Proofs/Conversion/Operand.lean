import IntegerCalculator.Proofs.Conversion.Sentence

/-! An operand among other tokens. What is converted before it and after it does not
depend on the operand, whether that is a number or a sentence in brackets, and
neither does a failure. -/

namespace IntegerCalculator.Conversion

/-- Tokens that are read as one operand and are emitted as `order` at once. -/
structure Operand (ts order : List Token) : Prop where
  absorbed : ∀ s : Conversion, s.expectsOperand = true →
    s.run ts = .ok ⟨order.reverse ++ s.emitted, s.pending, false⟩
  refused : ∀ s : Conversion, s.expectsOperand = false →
    s.run ts = .error .malformedExpression

theorem operand_number (n : Int64) : Operand [.number n] [.number n] := by
  refine ⟨fun s expects => ?_, fun s complete => ?_⟩
  · rw [run_cons_ok (step_number expects n)]
    rfl
  · apply run_cons_error
    apply step_of_out_of_turn
    simp [complete, Token.beginsOperand]

theorem operand_bracketed {ts : List Token} {t : Tree} (h : Sentence .sum ts t) :
    Operand (.opening :: ts ++ [.closing]) t.postorder := by
  refine ⟨fun s expects => run_bracketed (absorbs_of_sentence h) expects, fun s complete => ?_⟩
  apply run_cons_error
  apply step_of_out_of_turn
  rw [complete]
  decide

def around (before after : List Token) : Except Failure (List Token × List Token) := do
  let s ← ({} : Conversion).run before
  if s.expectsOperand then
    let s' ← ({ pending := s.pending, expectsOperand := false } : Conversion).run after
    return (s.emitted.reverse, ← s'.finish)
  else .error .malformedExpression

theorem around_of_error {before : List Token} {e : Failure}
    (start : ({} : Conversion).run before = .error e) (after : List Token) :
    around before after = .error e := by
  rw [around, start]
  rfl

theorem around_of_complete {before : List Token} {s : Conversion}
    (start : ({} : Conversion).run before = .ok s) (complete : s.expectsOperand = false)
    (after : List Token) : around before after = .error .malformedExpression := by
  rw [around, start]
  exact if_neg (by simp [complete])

theorem around_of_expects {before : List Token} {s : Conversion}
    (start : ({} : Conversion).run before = .ok s) (expects : s.expectsOperand = true)
    (after : List Token) :
    around before after =
      (({ pending := s.pending, expectsOperand := false } : Conversion).run after >>= finish).map
        fun out => (s.emitted.reverse, out) := by
  rw [around, start]
  change (if s.expectsOperand then _ else _) = _
  rw [if_pos expects]
  cases ({ pending := s.pending, expectsOperand := false } : Conversion).run after with
  | error e => rfl
  | ok s' =>
    change (do return (s.emitted.reverse, ← s'.finish)) = s'.finish.map _
    cases s'.finish <;> rfl

theorem Operand.ofTokens {ts order : List Token} (h : Operand ts order)
    (before after : List Token) :
    Postfix.ofTokens (before ++ ts ++ after) =
      (around before after).map fun r => r.1 ++ order ++ r.2 := by
  cases start : ({} : Conversion).run before with
  | error e =>
    have stops := run_append_error (run_append_error start ts) after
    rw [Postfix.ofTokens_of_run_error stops, around_of_error start]
    rfl
  | ok s =>
    have reached := run_append_ok start ts
    cases expects : s.expectsOperand with
    | false =>
      rw [h.refused s expects] at reached
      rw [Postfix.ofTokens_of_run_error (run_append_error reached after),
        around_of_complete start expects]
      rfl
    | true =>
      -- Behind the operand the states differ in what lies emitted and in nothing else.
      let bare : Conversion := { pending := s.pending, expectsOperand := false }
      have absorbed : ({} : Conversion).run (before ++ ts) =
          .ok (bare.behind (order.reverse ++ s.emitted)) := by
        rw [reached, h.absorbed s expects]
        rfl
      have rest := run_behind bare after (order.reverse ++ s.emitted)
      rw [Postfix.ofTokens, run_append_ok absorbed, rest, around_of_expects start expects]
      cases bare.run after with
      | error e => rfl
      | ok s' =>
        change (s'.behind (order.reverse ++ s.emitted)).finish = (s'.finish.map _).map _
        rw [finish_behind]
        cases s'.finish with
        | error e => rfl
        | ok out => simp [Except.map]

end IntegerCalculator.Conversion
