import IntegerCalculator.Proofs.Conversion.Fault
import Mathlib.Data.List.Chain

/-! What is pending and how much has been emitted. An operator is put on the stack only
where the entry below it is not computed before it, so from one bracket up to the next the
operators bind no looser towards the top. Each of them still waits for its right operand, so
the numbers are ahead of the operators by one when an operand is complete, and level with
them when one is expected. Each step keeps both; so an order that is converted has at
every place more numbers than operators before it. -/

namespace IntegerCalculator

theorem exists_infix_of_infix_map {α β : Type} {f : α → β} {l : List α} {part : List β}
    (h : part <:+: l.map f) : ∃ m, m <:+: l ∧ m.map f = part := by
  obtain ⟨before, after, parts⟩ := h
  obtain ⟨front, back, rfl, first, -⟩ := List.map_eq_append_iff.1 parts.symm
  obtain ⟨front, m, rfl, -, same⟩ := List.map_eq_append_iff.1 first
  exact ⟨m, List.infix_append front m back, same⟩

namespace Token

def isNumber : Token → Bool
  | number _ => true
  | _ => false

def isOperator : Token → Bool
  | operator _ => true
  | _ => false

/-- By how much the numbers outnumber the operators. -/
def lead : List Token → Int
  | [] => 0
  | number _ :: ts => lead ts + 1
  | operator _ :: ts => lead ts - 1
  | opening :: ts | closing :: ts => lead ts

theorem lead_eq (ts : List Token) : lead ts = ts.countP isNumber - ts.countP isOperator := by
  induction ts with
  | nil => rfl
  | cons t ts ih =>
    cases t <;> simp [lead, ih, List.countP_cons, isNumber, isOperator] <;> omega

theorem lead_reverse (ts : List Token) : lead ts.reverse = lead ts := by
  rw [lead_eq, lead_eq, List.countP_reverse, List.countP_reverse]

theorem lead_pos_iff (ts : List Token) :
    0 < lead ts ↔ ts.countP isOperator < ts.countP isNumber := by
  rw [lead_eq]
  omega

/-- Whatever was emitted first, the numbers in it were ahead; the latest token comes first in
the list. -/
def Ahead (emitted : List Token) : Prop := ∀ ts, ts <:+ emitted → ts ≠ [] → 0 < lead ts

theorem ahead_nil : Ahead [] := by
  intro ts within nonempty
  exact absurd (List.suffix_nil.1 within) nonempty

theorem Ahead.cons {t : Token} {emitted : List Token} (h : Ahead emitted)
    (more : 0 < lead (t :: emitted)) : Ahead (t :: emitted) := by
  intro ts within nonempty
  rcases List.suffix_cons_iff.1 within with rfl | before
  · exact more
  · exact h ts before nonempty

end Token

namespace Pending

/-- No operator is put on an entry that is computed before it. -/
def StandsOn (upper lower : Pending) : Prop :=
  ∀ o, upper = .operator o → lower.takesBefore o = false

theorem standsOn_operator_iff (p q : Operator) :
    StandsOn (.operator p) (.operator q) ↔
      q.precedence < p.precedence ∨ p = .power ∧ q = .power := by
  simp only [StandsOn, operator.injEq, forall_eq', ← Bool.not_eq_true, takesBefore_iff, token,
    Token.precedence]
  cases p <;> cases q <;> decide

theorem precedence_le_of_standsOn {p q : Operator} (h : StandsOn (.operator p) (.operator q)) :
    q.precedence ≤ p.precedence := by
  rcases (standsOn_operator_iff p q).1 h with lower | ⟨rfl, rfl⟩
  · exact Nat.le_of_lt lower
  · exact Nat.le_refl _

theorem power_of_standsOn {p q : Operator} (h : StandsOn (.operator p) (.operator q))
    (equal : p.precedence = q.precedence) : p = .power ∧ q = .power :=
  ((standsOn_operator_iff p q).1 h).resolve_left (Nat.not_lt_of_ge (Nat.le_of_eq equal))

theorem token_cases (x : Pending) : x.token = .opening ∨ ∃ o, x.token = .operator o := by
  cases x with
  | operator o => exact .inr ⟨o, rfl⟩
  | opening => exact .inl rfl

theorem lead_map_token (pending : List Pending) :
    Token.lead (pending.map token) = -((pending.map token).countP Token.isOperator : Int) := by
  have none_pending : (pending.map token).countP Token.isNumber = 0 := by
    rw [List.countP_eq_zero]
    intro t ht
    obtain ⟨x, -, rfl⟩ := List.mem_map.1 ht
    rcases x.token_cases with bracket | ⟨o, operator⟩
    · simp [bracket, Token.isNumber]
    · simp [operator, Token.isNumber]
  rw [Token.lead_eq, none_pending]
  omega

theorem exists_operators_of_map_token {pending : List Pending}
    (h : Token.opening ∉ pending.map token) :
    ∃ ops : List Operator, pending = ops.map .operator := by
  induction pending with
  | nil => exact ⟨[], rfl⟩
  | cons x pending ih =>
    rw [List.map_cons, List.mem_cons, not_or] at h
    obtain ⟨ops, rfl⟩ := ih h.2
    cases x with
    | operator o => exact ⟨o :: ops, rfl⟩
    | opening => exact absurd rfl h.1

end Pending

namespace Conversion

def stack (s : Conversion) : List Token := s.pending.map Pending.token

theorem stack_count_opening (s : Conversion) : s.stack.count .opening = s.openings := by
  rw [stack, openings]
  induction s.pending with
  | nil => rfl
  | cons x pending ih => cases x <;> simpa [Pending.token] using ih

theorem lead_stack (s : Conversion) :
    Token.lead s.stack = -(s.stack.countP Token.isOperator : Int) :=
  Pending.lead_map_token s.pending

structure Consistent (s : Conversion) : Prop where
  stacked : s.pending.IsChain Pending.StandsOn
  counted : Token.lead s.emitted + Token.lead s.stack = if s.expectsOperand then 0 else 1
  ahead : Token.Ahead s.emitted

namespace Consistent

theorem start : Consistent {} := ⟨.nil, rfl, Token.ahead_nil⟩

theorem level_of_expects {s : Conversion} (h : Consistent s) (expects : s.expectsOperand = true) :
    Token.lead s.emitted + Token.lead s.stack = 0 := by
  rw [h.counted, if_pos expects]

theorem lead_of_complete {s : Conversion} (h : Consistent s)
    (complete : s.expectsOperand = false) :
    Token.lead s.emitted + Token.lead s.stack = 1 := by
  rw [h.counted, complete]
  rfl

theorem emit {emitted : List Token} {o : Operator} {outer : List Pending}
    (h : Consistent ⟨emitted, .operator o :: outer, false⟩) :
    Consistent ⟨.operator o :: emitted, outer, false⟩ := by
  have lead : Token.lead emitted + (Token.lead (outer.map Pending.token) - 1) = 1 := h.counted
  have waiting := Pending.lead_map_token outer
  refine ⟨h.stacked.tail, ?_, Token.Ahead.cons h.ahead ?_⟩
  · change Token.lead emitted - 1 + Token.lead (outer.map Pending.token) = 1
    omega
  · change 0 < Token.lead emitted - 1
    omega

theorem release {p : Pending → Bool} {s : Conversion} (h : Consistent s)
    (complete : s.expectsOperand = false) (stops : p .opening = false) :
    Consistent (s.release p) := by
  have both : (s.release p).expectsOperand = false ∧ Consistent (s.release p) := by
    refine release_induct (motive := fun s => s.expectsOperand = false ∧ Consistent s) stops ?_
      ⟨complete, h⟩
    rintro emitted o outer expectsOperand - ⟨rfl, consistent⟩
    exact ⟨rfl, consistent.emit⟩
  exact both.2

theorem number {s : Conversion} (h : Consistent s) (expects : s.expectsOperand = true)
    (n : Int64) :
    Consistent { s with emitted := .number n :: s.emitted, expectsOperand := false } := by
  have level := h.level_of_expects expects
  have waiting := s.lead_stack
  refine ⟨h.stacked, ?_, h.ahead.cons ?_⟩
  · change Token.lead s.emitted + 1 + Token.lead s.stack = 1
    omega
  · change 0 < Token.lead s.emitted + 1
    omega

theorem opening {s : Conversion} (h : Consistent s) :
    Consistent { s with pending := .opening :: s.pending } := by
  refine ⟨h.stacked.cons ?_, h.counted, h.ahead⟩
  rintro lower - o ⟨⟩

theorem suspend {s : Conversion} (h : Consistent s) (complete : s.expectsOperand = false)
    (o : Operator) : Consistent (s.suspend o) := by
  have released := h.release (p := Pending.takesBefore o) complete rfl
  have stops := release_stops (Pending.takesBefore o) s
  have lead := released.lead_of_complete complete
  refine ⟨released.stacked.cons ?_, ?_, released.ahead⟩
  · rintro lower below _ ⟨⟩
    exact stops lower below
  · change Token.lead (s.release (Pending.takesBefore o)).emitted +
      (Token.lead (s.release (Pending.takesBefore o)).stack - 1) = 0
    omega

theorem close {s : Conversion} {outer : List Pending} (h : Consistent s)
    (complete : s.expectsOperand = false)
    (innermost : (s.release Pending.isOperator).pending = .opening :: outer) :
    Consistent { s.release Pending.isOperator with pending := outer } := by
  have released := h.release (p := Pending.isOperator) complete rfl
  have stacked := released.stacked
  have counted := released.counted
  rw [innermost] at stacked
  rw [stack, innermost] at counted
  exact ⟨stacked.tail, counted, released.ahead⟩

theorem step {s s' : Conversion} {t : Token} (h : Consistent s) (stepped : s.step t = .ok s') :
    Consistent s' := by
  cases steps_of_step stepped with
  | number n expects => exact h.number expects n
  | opening _ => exact h.opening
  | operator o complete => exact h.suspend complete o
  | closing complete innermost => exact h.close complete innermost

theorem run {s s' : Conversion} {ts : List Token} (h : Consistent s) (ran : s.run ts = .ok s') :
    Consistent s' :=
  run_induct (motive := fun _ => Consistent) h step ran

theorem stack_counted {s : Conversion} (h : Consistent s) :
    s.emitted.countP Token.isNumber = s.emitted.countP Token.isOperator +
      s.stack.countP Token.isOperator + if s.expectsOperand then 0 else 1 := by
  have waiting := s.lead_stack
  have emitted := Token.lead_eq s.emitted
  cases expects : s.expectsOperand with
  | true =>
    have level := h.level_of_expects expects
    rw [if_pos rfl]
    omega
  | false =>
    have lead := h.lead_of_complete expects
    rw [if_neg Bool.false_ne_true]
    omega

theorem exists_operators {s : Conversion} (h : Consistent s) {segment : List Token}
    (within : segment <:+: s.stack) (level : .opening ∉ segment) :
    ∃ ops : List Operator, segment = ops.map .operator ∧
      ops.IsChain fun p q => Pending.StandsOn (.operator p) (.operator q) := by
  obtain ⟨entries, part, rfl⟩ := exists_infix_of_infix_map within
  obtain ⟨ops, rfl⟩ := Pending.exists_operators_of_map_token level
  have chain := h.stacked.infix part
  exact ⟨ops, by rw [List.map_map]; rfl, (List.isChain_map Pending.operator).1 chain⟩

/-- From one bracket up to the next the precedences do not fall, and only powers stand on
their equals. -/
theorem ascending {s : Conversion} (h : Consistent s) {segment : List Token}
    (within : segment <:+: s.stack) (level : .opening ∉ segment) :
    (segment.reverse.map Token.precedence).Pairwise (· ≤ ·) ∧
      ∀ t u, [t, u] <:+: segment → t.precedence = u.precedence →
        t = .operator .power ∧ u = .operator .power := by
  obtain ⟨ops, rfl, chain⟩ := h.exists_operators within level
  constructor
  · have falling : (ops.map Operator.precedence).IsChain (· ≥ ·) :=
      (List.isChain_map _).2 (chain.imp fun _ _ => Pending.precedence_le_of_standsOn)
    rw [List.map_reverse, List.pairwise_reverse, List.map_map]
    exact List.isChain_iff_pairwise.1 falling
  · intro t u neighbours equal
    obtain ⟨both, part, same⟩ := exists_infix_of_infix_map neighbours
    obtain ⟨p, more, rfl, rfl, second⟩ := List.map_eq_cons_iff.1 same
    obtain ⟨q, none_left, rfl, rfl, third⟩ := List.map_eq_cons_iff.1 second
    obtain rfl := List.map_eq_nil_iff.1 third
    have pair := chain.infix part
    have stands := List.isChain_pair.1 pair
    obtain ⟨rfl, rfl⟩ := Pending.power_of_standsOn stands equal
    exact ⟨rfl, rfl⟩

theorem finish {s : Conversion} {out : List Token} (h : Consistent s)
    (finished : s.finish = .ok out) :
    (∀ ts, ts <+: out → ts ≠ [] → 0 < Token.lead ts) ∧ Token.lead out = 1 := by
  obtain ⟨complete, bottom, rfl⟩ := released_of_finish finished
  have released := h.release (p := Pending.isOperator) complete rfl
  refine ⟨fun ts within nonempty => ?_, ?_⟩
  · have emitted := List.reverse_suffix.2 within
    rw [List.reverse_reverse] at emitted
    rw [← Token.lead_reverse]
    exact released.ahead _ emitted (by simpa using nonempty)
  · have lead := released.lead_of_complete complete
    rw [stack, bottom] at lead
    rw [Token.lead_reverse]
    simpa [Token.lead] using lead

end Consistent

/-- Whatever has been read, the stack holds operators and open brackets; the operators above a
bracket bind no looser towards the top, and only powers stand on their equals; the open
brackets are those that the tokens have left open; and the numbers emitted are level with
the operators, emitted and pending, or one ahead of them behind a complete operand. So at
every place of a converted order more numbers than operators stand before it. -/
theorem stack_ascends_and_numbers_lead (ts : List Token) :
    (∀ s, ({} : Conversion).run ts = .ok s →
      (∀ t ∈ s.stack, t = .opening ∨ ∃ o, t = .operator o) ∧
      (∀ segment, segment <:+: s.stack → .opening ∉ segment →
        (segment.reverse.map Token.precedence).Pairwise (· ≤ ·) ∧
        ∀ t u, [t, u] <:+: segment → t.precedence = u.precedence →
          t = .operator .power ∧ u = .operator .power) ∧
      s.stack.count .opening + ts.count .closing = ts.count .opening ∧
      s.emitted.countP Token.isNumber = s.emitted.countP Token.isOperator +
        s.stack.countP Token.isOperator + if s.expectsOperand then 0 else 1) ∧
    ∀ out, Postfix.ofTokens ts = .ok out →
      (∀ us, us <+: out → us ≠ [] → us.countP Token.isOperator < us.countP Token.isNumber) ∧
      out.countP Token.isNumber = out.countP Token.isOperator + 1 := by
  refine ⟨fun s ran => ?_, fun out converted => ?_⟩
  · have kept := Consistent.start.run ran
    have brackets := openings_of_run ran
    refine ⟨fun t ht => ?_, fun segment => kept.ascending, ?_, kept.stack_counted⟩
    · obtain ⟨x, -, rfl⟩ := List.mem_map.1 ht
      exact x.token_cases
    · rw [stack_count_opening, brackets]
      exact Nat.zero_add _
  · obtain ⟨s, ran, finished⟩ := Postfix.exists_run_of_ofTokens converted
    obtain ⟨along, whole⟩ := (Consistent.start.run ran).finish finished
    refine ⟨fun us within nonempty => (Token.lead_pos_iff us).1 (along us within nonempty), ?_⟩
    rw [Token.lead_eq] at whole
    omega

/-- Powers stand on each other, and above a bracket the order begins anew. -/
example : (({} : Conversion).run [.number 2, .operator .power, .number 3, .operator .power,
      .opening, .number 4, .operator .minus, .number 5, .operator .times]).map stack =
    .ok [.operator .times, .operator .minus, .opening, .operator .power, .operator .power] := by
  decide

end Conversion
end IntegerCalculator
