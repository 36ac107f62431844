import IntegerCalculator.Proofs.Conversion.Bracket

/-! Tokens inside of a bracket. What is pending below an open bracket is out of reach
until that bracket is closed, so tokens that leave it open are read there as they are
read on their own; and closing it then does what the end of the tokens would have done. -/

namespace IntegerCalculator

namespace Conversion

open IntegerCalculator.Bracket (depthAfter?)

/-- The same state inside of one more bracket, with `outer` pending below that. -/
def within (s : Conversion) (outer : List Pending) : Conversion :=
  { s with pending := s.pending ++ .opening :: outer }

theorem release_within {p : Pending → Bool} (stops : p .opening = false) (s : Conversion)
    (outer : List Pending) : (s.within outer).release p = (s.release p).within outer := by
  obtain ⟨emitted, pending, expectsOperand⟩ := s
  induction pending generalizing emitted with
  | nil => exact release_cons_of_neg stops emitted outer expectsOperand
  | cons x pending ih =>
    cases hx : p x with
    | false =>
      rw [release_cons_of_neg hx]
      exact release_cons_of_neg hx emitted _ expectsOperand
    | true =>
      rw [release_cons_of_pos hx, ← ih]
      exact release_cons_of_pos hx emitted _ expectsOperand

theorem suspend_within (s : Conversion) (o : Operator) (outer : List Pending) :
    (s.within outer).suspend o = (s.suspend o).within outer := by
  rw [suspend, suspend, release_within rfl]
  rfl

theorem close_within {s : Conversion} (inside : s.openings ≠ 0) (outer : List Pending) :
    (s.within outer).close = s.close.map (·.within outer) := by
  have released := release_within (p := Pending.isOperator) rfl s outer
  rcases s.released_pending with bottom | ⟨below, innermost⟩
  · exact absurd (s.released_pending_eq_nil_iff.1 bottom) inside
  · have same : ((s.within outer).release Pending.isOperator).pending =
        .opening :: (below ++ .opening :: outer) := by
      rw [released, within, innermost]
      rfl
    rw [close_of_opening innermost, close_of_opening same, released]
    rfl

theorem close_within_of_closed {s : Conversion} (closed : s.openings = 0)
    (outer : List Pending) :
    (s.within outer).close = .ok { s.release Pending.isOperator with pending := outer } := by
  have bottom := s.released_pending_eq_nil_iff.2 closed
  have released := release_within (p := Pending.isOperator) rfl s outer
  have same : ((s.within outer).release Pending.isOperator).pending = .opening :: outer := by
    rw [released, within, bottom]
    rfl
  rw [close_of_opening same, released]
  rfl

theorem step_within {s : Conversion} {t : Token} (inside : t = .closing → s.openings ≠ 0)
    (outer : List Pending) : (s.within outer).step t = (s.step t).map (·.within outer) := by
  by_cases turn : t.beginsOperand = s.expectsOperand
  · have same : (s.within outer).expectsOperand = t.beginsOperand := turn.symm
    cases t with
    | number n => rw [step_number same, step_number turn.symm]; rfl
    | opening => rw [step_opening same, step_opening turn.symm]; rfl
    | operator o => rw [step_operator same, step_operator turn.symm, suspend_within]; rfl
    | closing => rw [step_closing same, step_closing turn.symm, close_within (inside rfl)]
  · have same : t.beginsOperand ≠ (s.within outer).expectsOperand := turn
    rw [step_of_out_of_turn turn, step_of_out_of_turn same]
    rfl

/-- Tokens that close no bracket but their own are read inside as they are outside. -/
theorem run_within {s : Conversion} {ts : List Token}
    (kept : depthAfter? s.openings (ts.filterMap Token.bracket?) ≠ none)
    (outer : List Pending) : (s.within outer).run ts = (s.run ts).map (·.within outer) := by
  induction ts generalizing s with
  | nil => rfl
  | cons t ts ih =>
    rw [filterMap_bracket?_cons, Bracket.depthAfter?_append] at kept
    have inside : t = .closing → s.openings ≠ 0 := by
      rintro rfl none_open
      rw [none_open] at kept
      exact kept rfl
    have stepped := step_within inside outer
    cases first : s.step t with
    | error e =>
      rw [first] at stepped
      rw [run_cons_error first, run_cons_error stepped]
      rfl
    | ok next =>
      rw [first] at stepped
      rw [run_cons_ok first, run_cons_ok stepped]
      rw [depthAfter?_of_step first, Option.bind_some] at kept
      exact ih kept

theorem step_closing_within {s : Conversion} (closed : s.openings = 0) (outer : List Pending) :
    (s.within outer).step .closing = s.finish.map fun out => ⟨out.reverse, outer, false⟩ := by
  cases expects : s.expectsOperand with
  | true =>
    have missing : s.finish = .error .malformedExpression :=
      (s.finish_eq_error_iff _).2 (.inl ⟨expects, rfl⟩)
    have turn : Token.closing.beginsOperand ≠ (s.within outer).expectsOperand := by
      change false ≠ s.expectsOperand
      simp [expects]
    rw [step_of_out_of_turn turn, missing]
    rfl
  | false =>
    have complete : (s.within outer).expectsOperand = false := expects
    have bottom := s.released_pending_eq_nil_iff.2 closed
    have last : (s.release Pending.isOperator).expectsOperand = false := expects
    rw [step_closing complete, close_within_of_closed closed, finish, expects]
    simp [bottom, Except.map, last]

/-- Matched tokens in brackets are one operand: what they are converted to on their own
is emitted, or they fail as they do on their own. -/
theorem run_enclosed {s : Conversion} (expects : s.expectsOperand = true) {ts : List Token}
    (matched : depthAfter? 0 (ts.filterMap Token.bracket?) = some 0) :
    s.run (.opening :: ts ++ [.closing]) =
      (Postfix.ofTokens ts).map fun out => ⟨out.reverse ++ s.emitted, s.pending, false⟩ := by
  have opened : s.step .opening =
      .ok ((({} : Conversion).within s.pending).behind s.emitted) := by
    rw [step_opening expects, within, behind]
    simp [expects]
  have kept : depthAfter? ({} : Conversion).openings (ts.filterMap Token.bracket?) ≠ none := by
    change depthAfter? 0 _ ≠ none
    simp [matched]
  -- Inside, the run is the one from the start, over what is pending and emitted before it.
  have inside := run_within kept s.pending
  rw [List.cons_append, run_cons_ok opened, run_append, run_behind, inside, Postfix.ofTokens]
  cases ran : ({} : Conversion).run ts with
  | error e => rfl
  | ok last =>
    have depth : depthAfter? 0 (ts.filterMap Token.bracket?) = some last.openings :=
      depthAfter?_of_run ran
    have closed : last.openings = 0 := by
      rw [matched] at depth
      exact (Option.some.inj depth).symm
    change ((last.within s.pending).behind s.emitted).run [.closing] = last.finish.map _
    rw [run_cons, step_behind, step_closing_within closed]
    cases last.finish <;> rfl

end Conversion

/-- A pair of brackets around matched tokens leaves their conversion and its failure as
they are. -/
theorem Postfix.ofTokens_enclosed {ts : List Token}
    (matched : Bracket.depthAfter? 0 (ts.filterMap Token.bracket?) = some 0) :
    ofTokens (.opening :: ts ++ [.closing]) = ofTokens ts := by
  have ran := Conversion.run_enclosed (s := {}) rfl matched
  rw [ofTokens, ran]
  cases ofTokens ts with
  | error e => rfl
  | ok out =>
    change Conversion.finish ⟨out.reverse ++ [], [], false⟩ = .ok out
    rw [Conversion.finish_of_released rfl rfl]
    simp

end IntegerCalculator
