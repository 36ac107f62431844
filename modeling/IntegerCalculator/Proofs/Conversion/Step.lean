import IntegerCalculator.Postfix
import Mathlib.Data.List.Induction

/-! What one token does to the state of the conversion, and what carries over to a
run. Operands and operators take turns by the last token alone, and what has
already been emitted is never looked at again. -/

namespace IntegerCalculator.Conversion

theorem step_of_out_of_turn {s : Conversion} {t : Token}
    (h : t.beginsOperand ≠ s.expectsOperand) : s.step t = .error .malformedExpression := if_pos h

theorem step_number {s : Conversion} (h : s.expectsOperand = true) (n : Int64) :
    s.step (.number n) =
      .ok { s with emitted := .number n :: s.emitted, expectsOperand := false } := by
  simp [step, Token.beginsOperand, h]

theorem step_opening {s : Conversion} (h : s.expectsOperand = true) :
    s.step .opening = .ok { s with pending := .opening :: s.pending } := by
  simp [step, Token.beginsOperand, h]

theorem step_operator {s : Conversion} (h : s.expectsOperand = false) (o : Operator) :
    s.step (.operator o) = .ok (s.suspend o) := by
  simp [step, Token.beginsOperand, h]

theorem step_closing {s : Conversion} (h : s.expectsOperand = false) :
    s.step .closing = s.close := by
  simp [step, Token.beginsOperand, h]

theorem release_stops (p : Pending → Bool) (s : Conversion) :
    ∀ x ∈ (s.release p).pending.head?, p x = false := by
  intro x hx
  have head : (s.pending.dropWhile p).head? = some x := hx
  have first := List.head?_dropWhile_not p s.pending
  rw [head] at first
  exact first

theorem release_cons_of_pos {p : Pending → Bool} {x : Pending} (h : p x = true)
    (emitted : List Token) (outer : List Pending) (expectsOperand : Bool) :
    release p ⟨emitted, x :: outer, expectsOperand⟩ =
      release p ⟨x.token :: emitted, outer, expectsOperand⟩ := by
  simp [release, h]

theorem release_cons_of_neg {p : Pending → Bool} {x : Pending} (h : p x = false)
    (emitted : List Token) (outer : List Pending) (expectsOperand : Bool) :
    release p ⟨emitted, x :: outer, expectsOperand⟩ = ⟨emitted, x :: outer, expectsOperand⟩ := by
  simp [release, h]

theorem release_operators {p : Pending → Bool} {ops : List Operator} {outer : List Pending}
    (taken : ∀ o ∈ ops, p (.operator o) = true) (stops : ∀ x ∈ outer.head?, p x = false)
    (emitted : List Token) (expectsOperand : Bool) :
    release p ⟨emitted, ops.map .operator ++ outer, expectsOperand⟩ =
      ⟨(ops.map .operator).reverse ++ emitted, outer, expectsOperand⟩ := by
  induction ops generalizing emitted with
  | nil =>
    cases outer with
    | nil => rfl
    | cons x outer => exact release_cons_of_neg (stops x rfl) emitted outer expectsOperand
  | cons o ops ih =>
    have rest := ih (fun q hq => taken q (List.mem_cons_of_mem o hq)) (.operator o :: emitted)
    rw [List.map_cons, List.cons_append, release_cons_of_pos (taken o List.mem_cons_self),
      Pending.token, rest]
    simp

/-- What stays as it is when one pending operator is emitted stays so when all that satisfy
`p` are. -/
theorem release_induct {motive : Conversion → Prop} {p : Pending → Bool}
    (stops : p .opening = false)
    (emit : ∀ {emitted : List Token} {o : Operator} {outer : List Pending}
      {expectsOperand : Bool}, p (.operator o) = true →
      motive ⟨emitted, .operator o :: outer, expectsOperand⟩ →
      motive ⟨.operator o :: emitted, outer, expectsOperand⟩)
    {s : Conversion} (start : motive s) : motive (s.release p) := by
  obtain ⟨emitted, pending, expectsOperand⟩ := s
  induction pending generalizing emitted with
  | nil => exact start
  | cons x outer ih =>
    cases hx : p x with
    | false => rwa [release_cons_of_neg hx]
    | true =>
      rw [release_cons_of_pos hx]
      cases x with
      | opening => rw [stops] at hx; contradiction
      | operator o => exact ih _ (emit hx start)

theorem released_pending (s : Conversion) :
    (s.release Pending.isOperator).pending = [] ∨
      ∃ outer, (s.release Pending.isOperator).pending = .opening :: outer := by
  have stops := release_stops Pending.isOperator s
  cases released : (s.release Pending.isOperator).pending with
  | nil => exact .inl rfl
  | cons x outer =>
    rw [released] at stops
    cases x with
    | operator o => exact absurd (stops _ rfl) (by simp [Pending.isOperator])
    | opening => exact .inr ⟨outer, rfl⟩

theorem close_of_nil {s : Conversion} (h : (s.release Pending.isOperator).pending = []) :
    s.close = .error .unmatchedBracket := by
  simp [close, h]

theorem close_of_opening {s : Conversion} {outer : List Pending}
    (h : (s.release Pending.isOperator).pending = .opening :: outer) :
    s.close = .ok { s.release Pending.isOperator with pending := outer } := by
  simp [close, h]

theorem finish_of_released {s : Conversion} {emitted : List Token}
    (expects : s.expectsOperand = false)
    (released : s.release Pending.isOperator = ⟨emitted, [], false⟩) :
    s.finish = .ok emitted.reverse := by
  simp [finish, expects, released]

theorem released_of_finish {s : Conversion} {out : List Token} (h : s.finish = .ok out) :
    s.expectsOperand = false ∧ (s.release Pending.isOperator).pending = [] ∧
      (s.release Pending.isOperator).emitted.reverse = out := by
  rw [finish] at h
  cases expects : s.expectsOperand with
  | true =>
    rw [if_pos expects] at h
    contradiction
  | false =>
    rw [if_neg (by simp [expects])] at h
    cases bottom : (s.release Pending.isOperator).pending with
    | nil =>
      simp only [bottom, List.isEmpty_nil, if_true, Except.ok.injEq] at h
      exact ⟨rfl, rfl, h⟩
    | cons x outer => simp [bottom] at h

inductive Steps (s : Conversion) : Token → Conversion → Prop where
  | number (n : Int64) : s.expectsOperand = true →
      Steps s (.number n) { s with emitted := .number n :: s.emitted, expectsOperand := false }
  | opening : s.expectsOperand = true →
      Steps s .opening { s with pending := .opening :: s.pending }
  | operator (o : Operator) : s.expectsOperand = false → Steps s (.operator o) (s.suspend o)
  | closing {outer : List Pending} : s.expectsOperand = false →
      (s.release Pending.isOperator).pending = .opening :: outer →
      Steps s .closing { s.release Pending.isOperator with pending := outer }

theorem steps_of_step {s s' : Conversion} {t : Token} (h : s.step t = .ok s') : Steps s t s' := by
  by_cases turn : t.beginsOperand = s.expectsOperand
  · cases t with
    | number n =>
      rw [step_number turn.symm] at h
      obtain rfl := Except.ok.inj h
      exact .number n turn.symm
    | opening =>
      rw [step_opening turn.symm] at h
      obtain rfl := Except.ok.inj h
      exact .opening turn.symm
    | operator o =>
      rw [step_operator turn.symm] at h
      obtain rfl := Except.ok.inj h
      exact .operator o turn.symm
    | closing =>
      rw [step_closing turn.symm] at h
      rcases s.released_pending with bottom | ⟨outer, innermost⟩
      · rw [close_of_nil bottom] at h
        contradiction
      · rw [close_of_opening innermost] at h
        obtain rfl := Except.ok.inj h
        exact .closing turn.symm innermost
  · rw [step_of_out_of_turn turn] at h
    contradiction

theorem expectsOperand_of_step {s s' : Conversion} {t : Token} (h : s.step t = .ok s') :
    s'.expectsOperand = !t.endsOperand := by
  cases steps_of_step h with
  | number n _ => rfl
  | opening expects => exact expects
  | operator o _ => rfl
  | closing expects _ => exact expects

theorem step_of_juxtaposed {s s' : Conversion} {a b : Token} (h : s.step a = .ok s')
    (ends : a.endsOperand = true) (begins : b.beginsOperand = true) :
    s'.step b = .error .malformedExpression := by
  apply step_of_out_of_turn
  rw [expectsOperand_of_step h, ends, begins]
  decide

theorem run_cons_ok {s s' : Conversion} {t : Token} (h : s.step t = .ok s') (ts : List Token) :
    s.run (t :: ts) = s'.run ts := by
  rw [run_cons, h]
  rfl

theorem run_cons_error {s : Conversion} {t : Token} {e : Failure} (h : s.step t = .error e)
    (ts : List Token) : s.run (t :: ts) = .error e := by
  rw [run_cons, h]
  rfl

theorem run_append_ok {s s' : Conversion} {ts : List Token} (h : s.run ts = .ok s')
    (us : List Token) : s.run (ts ++ us) = s'.run us := by
  rw [run_append, h]
  rfl

theorem run_append_error {s : Conversion} {ts : List Token} {e : Failure}
    (h : s.run ts = .error e) (us : List Token) : s.run (ts ++ us) = .error e := by
  rw [run_append, h]
  rfl

theorem exists_of_run_cons {s s' : Conversion} {t : Token} {ts : List Token}
    (h : s.run (t :: ts) = .ok s') : ∃ next, s.step t = .ok next ∧ next.run ts = .ok s' :=
  bind_eq_ok_iff.1 h

theorem exists_of_run_append {s s' : Conversion} {ts us : List Token}
    (h : s.run (ts ++ us) = .ok s') :
    ∃ between, s.run ts = .ok between ∧ between.run us = .ok s' := by
  rw [run_append] at h
  exact bind_eq_ok_iff.1 h

/-- What holds before the first token, and is kept by each step for the tokens read so far, holds
after any run. -/
theorem run_induct {motive : List Token → Conversion → Prop} {ts : List Token}
    {s s' : Conversion} (start : motive [] s)
    (step : ∀ {us : List Token} {between next : Conversion} {t : Token}, motive us between →
      between.step t = .ok next → motive (us ++ [t]) next)
    (ran : s.run ts = .ok s') : motive ts s' := by
  induction ts using List.reverseRecOn generalizing s' with
  | nil =>
    obtain rfl := Except.ok.inj ran
    exact start
  | append_singleton ts t ih =>
    obtain ⟨between, before, last⟩ := exists_of_run_append ran
    obtain ⟨next, stepped, rest⟩ := exists_of_run_cons last
    obtain rfl := Except.ok.inj rest
    exact step (ih before) stepped

/-- The same state after more has been emitted, before all that it has emitted itself. -/
def behind (s : Conversion) (base : List Token) : Conversion :=
  { s with emitted := s.emitted ++ base }

theorem release_behind (p : Pending → Bool) (s : Conversion) (base : List Token) :
    (s.behind base).release p = (s.release p).behind base := by
  simp [release, behind]

theorem close_behind (s : Conversion) (base : List Token) :
    (s.behind base).close = s.close.map (·.behind base) := by
  have released := release_behind Pending.isOperator s base
  rcases s.released_pending with bottom | ⟨outer, innermost⟩
  · have same : ((s.behind base).release Pending.isOperator).pending = [] := by
      rw [released]
      exact bottom
    rw [close_of_nil bottom, close_of_nil same]
    rfl
  · have same : ((s.behind base).release Pending.isOperator).pending = .opening :: outer := by
      rw [released]
      exact innermost
    rw [close_of_opening innermost, close_of_opening same, released]
    rfl

theorem suspend_behind (s : Conversion) (o : Operator) (base : List Token) :
    (s.behind base).suspend o = (s.suspend o).behind base := by
  rw [suspend, suspend, release_behind]
  rfl

theorem step_behind (s : Conversion) (t : Token) (base : List Token) :
    (s.behind base).step t = (s.step t).map (·.behind base) := by
  by_cases turn : t.beginsOperand = s.expectsOperand
  · have same : (s.behind base).expectsOperand = t.beginsOperand := turn.symm
    cases t with
    | number n => rw [step_number same, step_number turn.symm]; rfl
    | opening => rw [step_opening same, step_opening turn.symm]; rfl
    | operator o => rw [step_operator same, step_operator turn.symm, suspend_behind]; rfl
    | closing => rw [step_closing same, step_closing turn.symm, close_behind]
  · have same : t.beginsOperand ≠ (s.behind base).expectsOperand := turn
    rw [step_of_out_of_turn turn, step_of_out_of_turn same]
    rfl

theorem run_behind (s : Conversion) (ts : List Token) (base : List Token) :
    (s.behind base).run ts = (s.run ts).map (·.behind base) := by
  induction ts generalizing s with
  | nil => rfl
  | cons t ts ih =>
    have stepped := step_behind s t base
    cases first : s.step t with
    | error e =>
      rw [first] at stepped
      rw [run_cons_error first, run_cons_error stepped]
      rfl
    | ok next =>
      rw [first] at stepped
      rw [run_cons_ok first, run_cons_ok stepped]
      exact ih next

theorem finish_behind (s : Conversion) (base : List Token) :
    (s.behind base).finish = s.finish.map (base.reverse ++ ·) := by
  have expects : (s.behind base).expectsOperand = s.expectsOperand := rfl
  rw [finish, finish, expects, release_behind]
  cases s.expectsOperand with
  | true => rfl
  | false =>
    cases h : (s.release Pending.isOperator).pending with
    | nil =>
      simp [behind, h]
      rfl
    | cons x outer =>
      simp [behind, h]
      rfl

end IntegerCalculator.Conversion

namespace IntegerCalculator.Postfix

theorem ofTokens_of_run {ts : List Token} {s : Conversion} (h : ({} : Conversion).run ts = .ok s) :
    ofTokens ts = s.finish := by
  rw [ofTokens, h]
  rfl

theorem ofTokens_of_run_error {ts : List Token} {e : Failure}
    (h : ({} : Conversion).run ts = .error e) : ofTokens ts = .error e := by
  rw [ofTokens, h]
  rfl

theorem exists_run_of_ofTokens {ts out : List Token} (h : ofTokens ts = .ok out) :
    ∃ s, ({} : Conversion).run ts = .ok s ∧ s.finish = .ok out :=
  bind_eq_ok_iff.1 h

end IntegerCalculator.Postfix
