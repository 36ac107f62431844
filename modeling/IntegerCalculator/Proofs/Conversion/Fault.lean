import IntegerCalculator.Proofs.Conversion.Bracket
import Mathlib.Order.Bounds.Basic

/-! Why tokens are refused. Reading stops at the first token that is out of turn or
closes a bracket too many, and at the end an operand may be missing or a bracket may
have been left open. Each of these is a property of the tokens alone, so the failure
can be told without following the conversion. -/

namespace IntegerCalculator

namespace Token

def endsComplete (ts : List Token) : Bool := ts.getLast?.any endsOperand

theorem endsComplete_concat (ts : List Token) (t : Token) :
    endsComplete (ts ++ [t]) = t.endsOperand := by
  simp [endsComplete]

/-- The token at place `i` begins an operand behind a complete one, or goes on from an
operand where none is complete. -/
def OutOfTurn (ts : List Token) (i : Nat) : Prop :=
  ∃ t, ts[i]? = some t ∧ t.beginsOperand = endsComplete (ts.take i)

/-- The token at place `i` is a closing bracket, and up to it more brackets are closed
than opened. -/
def Overclosed (ts : List Token) (i : Nat) : Prop :=
  ts[i]? = some .closing ∧ (ts.take (i + 1)).count .opening < (ts.take (i + 1)).count .closing

instance (ts : List Token) (i : Nat) : Decidable (OutOfTurn ts i) :=
  inferInstanceAs (Decidable (∃ t ∈ ts[i]?, t.beginsOperand = endsComplete (ts.take i)))

instance (ts : List Token) (i : Nat) : Decidable (Overclosed ts i) :=
  inferInstanceAs (Decidable (_ ∧ _))

end Token

theorem isLeast_of_none_before {p : Nat → Prop} {k : Nat} (here : p k) (before : ∀ i < k, ¬ p i) :
    IsLeast {i | p i} k :=
  ⟨here, fun i hi => Nat.le_of_not_lt fun lt => before i lt hi⟩

open Token (OutOfTurn Overclosed endsComplete)

namespace Conversion

theorem openings_of_step {s s' : Conversion} {t : Token} (h : s.step t = .ok s') :
    s'.openings + [t].count .closing = s.openings + [t].count .opening := by
  have depth := depthAfter?_of_step h
  cases t with
  | number | operator =>
    have same : s.openings = s'.openings := Option.some.inj depth
    simp [same]
  | opening =>
    have deeper : s.openings + 1 = s'.openings := Option.some.inj depth
    simp [← deeper]
  | closing =>
    cases open_before : s.openings with
    | zero =>
      rw [open_before] at depth
      cases depth
    | succ outer =>
      rw [open_before] at depth
      have back : outer = s'.openings := Option.some.inj depth
      simp [back]

theorem openings_of_run {s s' : Conversion} {ts : List Token} (h : s.run ts = .ok s') :
    s'.openings + ts.count .closing = s.openings + ts.count .opening := by
  refine run_induct
    (motive := fun ts s' => s'.openings + ts.count .closing = s.openings + ts.count .opening)
    rfl ?_ h
  intro us between next t before stepped
  have last := openings_of_step stepped
  rw [List.count_append, List.count_append]
  omega

theorem expectsOperand_of_run {s : Conversion} {ts : List Token}
    (h : ({} : Conversion).run ts = .ok s) : s.expectsOperand = !endsComplete ts := by
  refine run_induct (motive := fun ts s => s.expectsOperand = !endsComplete ts) rfl ?_ h
  intro us between next t _ stepped
  rw [expectsOperand_of_step stepped, Token.endsComplete_concat]

section place

variable {ts : List Token} {i : Nat} {t : Token} {s : Conversion}

theorem outOfTurn_iff (ran : ({} : Conversion).run (ts.take i) = .ok s) (ht : ts[i]? = some t) :
    OutOfTurn ts i ↔ t.beginsOperand ≠ s.expectsOperand := by
  rw [expectsOperand_of_run ran, OutOfTurn, ht]
  simp

theorem overclosed_iff (ran : ({} : Conversion).run (ts.take i) = .ok s) (ht : ts[i]? = some t) :
    Overclosed ts i ↔ t = .closing ∧ s.openings = 0 := by
  have count := openings_of_run ran
  have none_open : ({} : Conversion).openings = 0 := rfl
  rw [Overclosed, List.take_add_one, ht, Option.some.injEq, List.count_append, List.count_append]
  apply and_congr_right
  rintro rfl
  simp only [Option.toList_some, List.count_singleton_self, List.count_cons_of_ne, List.count_nil,
    ne_eq, reduceCtorEq, not_false_eq_true]
  omega

/-- Where reading has come to, a token is refused for one of two reasons; to be out of
turn comes first. -/
theorem step_eq_error_iff_place (ran : ({} : Conversion).run (ts.take i) = .ok s)
    (ht : ts[i]? = some t) (e : Failure) :
    s.step t = .error e ↔
      OutOfTurn ts i ∧ e = .malformedExpression ∨
      ¬ OutOfTurn ts i ∧ Overclosed ts i ∧ e = .unmatchedBracket := by
  rw [step_eq_error_iff, outOfTurn_iff ran ht, overclosed_iff ran ht, not_not, and_assoc]

end place

theorem exists_step_of_run {ts : List Token} {i k : Nat} {t : Token} {s : Conversion}
    (ran : ({} : Conversion).run (ts.take i) = .ok s) (before : k < i) (ht : ts[k]? = some t) :
    ∃ between next, ({} : Conversion).run (ts.take k) = .ok between ∧ between.step t = .ok next := by
  have split : ts.take i = ts.take k ++ t :: (ts.take i).drop (k + 1) := by
    calc
      ts.take i = (ts.take i).take k ++ (ts.take i).drop k := (List.take_append_drop k _).symm
      _ = ts.take k ++ t :: (ts.take i).drop (k + 1) := by
        rw [List.take_take, Nat.min_eq_left (Nat.le_of_lt before),
          List.drop_eq_getElem?_toList_append, List.getElem?_take_of_lt before, ht]
        rfl
  rw [split] at ran
  obtain ⟨between, start, rest⟩ := exists_of_run_append ran
  obtain ⟨next, stepped, -⟩ := exists_of_run_cons rest
  exact ⟨between, next, start, stepped⟩

theorem sound_of_run {ts : List Token} {i k : Nat} {s : Conversion}
    (ran : ({} : Conversion).run (ts.take i) = .ok s) (before : k < i) :
    ¬ OutOfTurn ts k ∧ ¬ Overclosed ts k := by
  cases ht : ts[k]? with
  | none => simp [OutOfTurn, Overclosed, ht]
  | some t =>
    obtain ⟨between, next, start, stepped⟩ := exists_step_of_run ran before ht
    have accepted (e : Failure) : between.step t ≠ .error e := by simp [stepped]
    simp only [Ne, step_eq_error_iff_place start ht, not_or, not_and] at accepted
    have turn : ¬ OutOfTurn ts k := fun out => (accepted _).1 out rfl
    exact ⟨turn, fun excess => (accepted _).2 turn excess rfl⟩

theorem exists_place_of_run_error {s : Conversion} {ts : List Token} {e : Failure}
    (h : s.run ts = .error e) :
    ∃ i t between, ts[i]? = some t ∧ s.run (ts.take i) = .ok between ∧
      between.step t = .error e := by
  induction ts generalizing s with
  | nil => cases h
  | cons t ts ih =>
    cases stepped : s.step t with
    | error e' =>
      rw [run_cons_error stepped] at h
      obtain rfl := Except.error.inj h
      exact ⟨0, t, s, rfl, rfl, stepped⟩
    | ok next =>
      rw [run_cons_ok stepped] at h
      obtain ⟨i, u, between, place, ran, refused⟩ := ih h
      refine ⟨i + 1, u, between, place, ?_, refused⟩
      rw [List.take_succ_cons, run_cons_ok stepped, ran]

theorem exists_fault_of_run_error {ts : List Token} {e : Failure}
    (h : ({} : Conversion).run ts = .error e) :
    ∃ i, (∀ k < i, ¬ OutOfTurn ts k ∧ ¬ Overclosed ts k) ∧
      (OutOfTurn ts i ∧ e = .malformedExpression ∨
        ¬ OutOfTurn ts i ∧ Overclosed ts i ∧ e = .unmatchedBracket) := by
  obtain ⟨i, t, between, place, ran, refused⟩ := exists_place_of_run_error h
  exact ⟨i, fun k before => sound_of_run ran before, (step_eq_error_iff_place ran place e).1 refused⟩

theorem run_eq_ok_iff (ts : List Token) :
    (∃ s, ({} : Conversion).run ts = .ok s) ↔ ∀ k, ¬ OutOfTurn ts k ∧ ¬ Overclosed ts k := by
  constructor
  · rintro ⟨s, ran⟩ k
    rw [← List.take_of_length_le (Nat.le_add_right ts.length (k + 1))] at ran
    exact sound_of_run ran (by omega)
  · intro sound
    cases ran : ({} : Conversion).run ts with
    | ok s => exact ⟨s, rfl⟩
    | error e =>
      obtain ⟨i, -, ⟨out, -⟩ | ⟨-, excess, -⟩⟩ := exists_fault_of_run_error ran
      · exact absurd out (sound i).1
      · exact absurd excess (sound i).2

end Conversion

namespace Postfix

theorem ofTokens_of_sound {ts : List Token} (sound : ∀ k, ¬ OutOfTurn ts k ∧ ¬ Overclosed ts k) :
    (endsComplete ts = false → ofTokens ts = .error .malformedExpression) ∧
      (endsComplete ts = true →
        ofTokens ts = .error .unmatchedBracket ∧ ts.count .closing < ts.count .opening ∨
          (∃ out, ofTokens ts = .ok out) ∧ ts.count .closing = ts.count .opening) := by
  obtain ⟨s, ran⟩ := (Conversion.run_eq_ok_iff ts).2 sound
  have expects := Conversion.expectsOperand_of_run ran
  have count : s.openings + ts.count .closing = 0 + ts.count .opening :=
    Conversion.openings_of_run ran
  rw [ofTokens_of_run ran]
  refine ⟨fun missing => ?_, fun complete => ?_⟩
  · rw [missing] at expects
    exact (s.finish_eq_error_iff _).2 (.inl ⟨expects, rfl⟩)
  · rw [complete] at expects
    by_cases closed : s.openings = 0
    · cases finished : s.finish with
      | ok out => exact .inr ⟨⟨out, rfl⟩, by omega⟩
      | error e =>
        rcases (s.finish_eq_error_iff e).1 finished with ⟨open_end, -⟩ | ⟨-, left_open, -⟩
        · rw [expects] at open_end
          contradiction
        · exact absurd closed left_open
    · exact .inl ⟨(s.finish_eq_error_iff _).2 (.inr ⟨expects, closed, rfl⟩), by omega⟩

/-- The first fault from the left decides, a token out of turn before a bracket closed too
often at the same place; without any, the end decides. -/
theorem ofTokens_fails_at_first_fault (ts : List Token) :
    (∀ j, IsLeast {j | Overclosed ts j} j → (∀ i, IsLeast {i | OutOfTurn ts i} i → j < i) →
      ofTokens ts = .error .unmatchedBracket) ∧
    (∀ i, IsLeast {i | OutOfTurn ts i} i → (∀ j, IsLeast {j | Overclosed ts j} j → i ≤ j) →
      ofTokens ts = .error .malformedExpression) ∧
    ((∀ i, ¬ OutOfTurn ts i) → (∀ j, ¬ Overclosed ts j) →
      (endsComplete ts = false → ofTokens ts = .error .malformedExpression) ∧
      (endsComplete ts = true →
        ofTokens ts = .error .unmatchedBracket ∧ ts.count .closing < ts.count .opening ∨
          (∃ out, ofTokens ts = .ok out) ∧ ts.count .closing = ts.count .opening)) ∧
    ∀ e, ofTokens ts = .error e → e = .malformedExpression ∨ e = .unmatchedBracket := by
  refine ⟨fun j excess first => ?_, fun i out first => ?_,
    fun turn closed => ofTokens_of_sound fun k => ⟨turn k, closed k⟩,
    fun e failed => (error_of_ofTokens failed).imp_right And.left⟩
  · cases ran : ({} : Conversion).run ts with
    | ok s => exact absurd excess.1 ((Conversion.run_eq_ok_iff ts).1 ⟨s, ran⟩ j).2
    | error e =>
      obtain ⟨k, before, ⟨out, -⟩ | ⟨-, -, rfl⟩⟩ := Conversion.exists_fault_of_run_error ran
      · have later := first k (isLeast_of_none_before out fun i lt => (before i lt).1)
        exact absurd excess.1 (before j later).2
      · exact ofTokens_of_run_error ran
  · cases ran : ({} : Conversion).run ts with
    | ok s => exact absurd out.1 ((Conversion.run_eq_ok_iff ts).1 ⟨s, ran⟩ i).1
    | error e =>
      obtain ⟨k, before, ⟨-, rfl⟩ | ⟨turn, excess, -⟩⟩ := Conversion.exists_fault_of_run_error ran
      · exact ofTokens_of_run_error ran
      · have notLater := first k (isLeast_of_none_before excess fun j lt => (before j lt).2)
        rcases Nat.lt_or_eq_of_le notLater with earlier | rfl
        · exact absurd out.1 (before i earlier).1
        · exact absurd out.1 turn

/-- A text that starts with a closing bracket has both faults at its first place. -/
example : OutOfTurn [.closing] 0 ∧ Overclosed [.closing] 0 ∧
    ofTokens [.closing] = .error .malformedExpression := by decide

end Postfix

end IntegerCalculator
