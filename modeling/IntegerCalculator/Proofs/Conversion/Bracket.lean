import IntegerCalculator.Proofs.Conversion.Step
import IntegerCalculator.Proofs.Token

/-! The brackets of the conversion. Those that are pending are the ones left open by
the tokens read so far, and a bracket is found unmatched only where the count of
open brackets says so; every other refusal is of a token out of turn. -/

namespace IntegerCalculator

namespace Conversion

open IntegerCalculator.Bracket (depthAfter?)

def openings (s : Conversion) : Nat := s.pending.count .opening

theorem openings_release {p : Pending → Bool} (h : p .opening = false) (s : Conversion) :
    (s.release p).openings = s.openings := by
  refine release_induct (motive := fun s' => s'.openings = s.openings) h ?_ rfl
  intro emitted o outer expectsOperand _ same
  rwa [openings, List.count_cons_of_ne (by simp)] at same

theorem depthAfter?_of_step {s s' : Conversion} {t : Token} (h : s.step t = .ok s') :
    depthAfter? s.openings t.bracket?.toList = some s'.openings := by
  cases steps_of_step h with
  | number n _ => rfl
  | opening _ =>
    change some (s.openings + 1) = some _
    rw [openings, openings, List.count_cons_self]
  | operator o _ =>
    have same := openings_release (p := Pending.takesBefore o) rfl s
    rw [← same]
    change some _ = some (List.count _ (_ :: _))
    rw [List.count_cons_of_ne (by simp)]
    rfl
  | @closing outer _ innermost =>
    have same := openings_release (p := Pending.isOperator) rfl s
    rw [openings, innermost, List.count_cons_self] at same
    rw [← same]
    rfl

theorem released_pending_eq_nil_iff (s : Conversion) :
    (s.release Pending.isOperator).pending = [] ↔ s.openings = 0 := by
  have same := openings_release (p := Pending.isOperator) rfl s
  rcases s.released_pending with bottom | ⟨outer, innermost⟩
  · rw [openings, bottom, List.count_nil] at same
    simp [bottom, ← same]
  · rw [openings, innermost, List.count_cons_self] at same
    simp [innermost, ← same]

theorem close_eq_error_iff (s : Conversion) (e : Failure) :
    s.close = .error e ↔ s.openings = 0 ∧ e = .unmatchedBracket := by
  rw [← released_pending_eq_nil_iff]
  rcases s.released_pending with bottom | ⟨outer, innermost⟩
  · simp [close_of_nil bottom, bottom, @eq_comm _ e]
  · simp [close_of_opening innermost, innermost]

/-- A token is refused out of turn, or as a bracket that closes none. -/
theorem step_eq_error_iff (s : Conversion) (t : Token) (e : Failure) :
    s.step t = .error e ↔
      t.beginsOperand ≠ s.expectsOperand ∧ e = .malformedExpression ∨
      t.beginsOperand = s.expectsOperand ∧ t = .closing ∧ s.openings = 0 ∧
        e = .unmatchedBracket := by
  by_cases turn : t.beginsOperand = s.expectsOperand
  · cases t with
    | number n => simp [step_number turn.symm, turn]
    | opening => simp [step_opening turn.symm, turn]
    | operator o => simp [step_operator turn.symm, turn]
    | closing => simp [step_closing turn.symm, turn, close_eq_error_iff]
  · simp [step_of_out_of_turn turn, turn, @eq_comm _ e]

theorem error_of_step {s : Conversion} {t : Token} {e : Failure} (h : s.step t = .error e) :
    e = .malformedExpression ∨
      e = .unmatchedBracket ∧ depthAfter? s.openings t.bracket?.toList = none := by
  rcases (step_eq_error_iff s t e).1 h with ⟨-, malformed⟩ | ⟨-, rfl, closed, unmatched⟩
  · exact .inl malformed
  · exact .inr ⟨unmatched, by rw [closed]; rfl⟩

theorem filterMap_bracket?_cons (t : Token) (ts : List Token) :
    (t :: ts).filterMap Token.bracket? = t.bracket?.toList ++ ts.filterMap Token.bracket? := by
  rw [List.filterMap_cons]
  cases t.bracket? <;> rfl

theorem depthAfter?_of_run {s s' : Conversion} {ts : List Token} (h : s.run ts = .ok s') :
    depthAfter? s.openings (ts.filterMap Token.bracket?) = some s'.openings := by
  refine run_induct
    (motive := fun ts s' => depthAfter? s.openings (ts.filterMap Token.bracket?) = some s'.openings)
    rfl ?_ h
  intro us between next t before stepped
  rw [List.filterMap_append, Bracket.depthAfter?_append, before, Option.bind_some,
    filterMap_bracket?_cons, List.filterMap_nil, List.append_nil, depthAfter?_of_step stepped]

theorem error_of_run {s : Conversion} {ts : List Token} {e : Failure} (h : s.run ts = .error e) :
    e = .malformedExpression ∨
      e = .unmatchedBracket ∧ depthAfter? s.openings (ts.filterMap Token.bracket?) = none := by
  induction ts generalizing s with
  | nil => contradiction
  | cons t ts ih =>
    rw [filterMap_bracket?_cons, Bracket.depthAfter?_append]
    cases stepped : s.step t with
    | error e' =>
      rw [run_cons_error stepped] at h
      obtain rfl := Except.error.inj h
      exact (error_of_step stepped).imp_right fun ⟨unmatched, below⟩ =>
        ⟨unmatched, by rw [below, Option.bind_none]⟩
    | ok next =>
      rw [run_cons_ok stepped] at h
      exact (ih h).imp_right fun ⟨unmatched, below⟩ =>
        ⟨unmatched, by rw [depthAfter?_of_step stepped, Option.bind_some, below]⟩

theorem finish_eq_error_iff (s : Conversion) (e : Failure) :
    s.finish = .error e ↔
      s.expectsOperand = true ∧ e = .malformedExpression ∨
      s.expectsOperand = false ∧ s.openings ≠ 0 ∧ e = .unmatchedBracket := by
  rw [Ne, ← released_pending_eq_nil_iff, finish]
  cases s.expectsOperand with
  | true => simp [@eq_comm _ e]
  | false =>
    by_cases bottom : (s.release Pending.isOperator).pending = []
    · simp [bottom]
    · simp [bottom, @eq_comm _ e]

theorem error_of_finish {s : Conversion} {e : Failure} (h : s.finish = .error e) :
    e = .malformedExpression ∨ e = .unmatchedBracket ∧ s.openings ≠ 0 := by
  rcases (finish_eq_error_iff s e).1 h with ⟨-, malformed⟩ | ⟨-, left_open, unmatched⟩
  · exact .inl malformed
  · exact .inr ⟨unmatched, left_open⟩

end Conversion

/-- An unmatched bracket is reported only of tokens whose brackets do not match. -/
theorem Postfix.error_of_ofTokens {ts : List Token} {e : Failure} (h : ofTokens ts = .error e) :
    e = .malformedExpression ∨
      e = .unmatchedBracket ∧
        Bracket.depthAfter? 0 (ts.filterMap Token.bracket?) ≠ some 0 := by
  cases ran : ({} : Conversion).run ts with
  | error e' =>
    rw [ofTokens_of_run_error ran] at h
    obtain rfl := Except.error.inj h
    refine (Conversion.error_of_run ran).imp_right fun ⟨unmatched, below⟩ => ⟨unmatched, ?_⟩
    have below : Bracket.depthAfter? 0 (ts.filterMap Token.bracket?) = none := below
    simp [below]
  | ok s =>
    rw [ofTokens_of_run ran] at h
    refine (Conversion.error_of_finish h).imp_right fun ⟨unmatched, left_open⟩ => ⟨unmatched, ?_⟩
    have depth : Bracket.depthAfter? 0 (ts.filterMap Token.bracket?) = some s.openings :=
      Conversion.depthAfter?_of_run ran
    simpa [depth] using left_open

end IntegerCalculator
