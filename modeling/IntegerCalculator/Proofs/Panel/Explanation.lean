import IntegerCalculator.Proofs.Calculation.Diagnosis
import IntegerCalculator.Proofs.Calculation.Replay
import IntegerCalculator.Proofs.Panel.Step

/-! The steps that a panel shows are those of the result above them. A display is blank,
or shows a solution, or shows an error over the result before it; whatever the user does,
it stays one of the three. -/

namespace IntegerCalculator.Panel

def ResultText (t : Text) : Prop := t = [] ∨ ∃ n : Int64, t = Text.decimal n.toInt

def ErrorText (t : Text) : Prop :=
  t = "Entrée vide".toList ∨ ∃ e : Failure, (∀ c, e ≠ .unexpectedToken c) ∧ t = e.message

inductive Display.Explained : Display → Prop where
  | blank : Explained {}
  | solved {s : Text} {answer : Solution} : Calculation.result s = .ok answer →
      Explained ⟨Text.decimal answer.value.toInt, [], answer.steps⟩
  | failed {last message : Text} : ResultText last → ErrorText message →
      Explained ⟨last, message, {}⟩

namespace Display

theorem Explained.numeral {d : Display} (h : d.Explained) : ResultText d.result := by
  cases h with
  | blank => exact .inl rfl
  | solved => exact .inr ⟨_, rfl⟩
  | failed last => exact last

theorem complaint_of_result {s : Text} {e : Failure} (h : Calculation.result s = .error e) :
    ErrorText e.message := by
  refine .inr ⟨e, ?_, rfl⟩
  rintro c rfl
  exact Calculation.value_ne_unexpectedToken s c (Calculation.value_of_result_error h)

theorem Explained.evaluated {d : Display} (h : d.Explained) (entry : Text) :
    (d.evaluated entry).Explained := by
  unfold Display.evaluated
  split
  · exact .failed h.numeral (.inl rfl)
  · cases computed : Calculation.result (Text.trim entry) with
    | ok answer => exact .solved computed
    | error e => exact .failed h.numeral (complaint_of_result computed)

theorem Explained.onDisplay {d : Display} (h : d.Explained) (entry : Text) (effect : Effect) :
    (effect.onDisplay d entry).Explained := by
  cases effect with
  | keep => exact h
  | clear => exact .blank
  | evaluate => exact h.evaluated entry

theorem Explained.of_steps {d : Display} (h : d.Explained) (shown : d.steps ≠ {}) :
    d.error = [] ∧
      ∃ answer, Calculation.result d.steps.tokens = .ok answer ∧ answer.steps = d.steps ∧
        d.result = Text.decimal answer.value.toInt := by
  cases h with
  | solved computed => exact ⟨rfl, _, Calculation.result_steps_tokens computed, rfl, rfl⟩
  | blank | failed => exact absurd rfl shown

theorem Explained.of_error {d : Display} (h : d.Explained) (failed : d.error ≠ []) :
    d.steps = {} ∧ ErrorText d.error := by
  cases h with
  | failed _ complaint => exact ⟨rfl, complaint⟩
  | blank | solved => exact absurd rfl failed

end Display

theorem explained_performAll (actions : List Action) :
    (performAll {} actions).value.display.Explained := by
  have start : (display {}).Explained := .blank
  refine performAll_induct (motive := fun p => p.display.Explained) start ?_ actions
  intro p a h
  rw [display_perform]
  exact h.onDisplay p.entry _

/-- Steps in sight lead from their own tokens to the result in sight; an error is in sight
without steps, over an earlier result if there is one. -/
theorem steps_explain_result (actions : List Action) :
    let p := (performAll {} actions).value
    (p.steps ≠ {} → p.error = [] ∧
      ∃ answer, Calculation.result p.steps.tokens = .ok answer ∧ answer.steps = p.steps ∧
        p.result = Text.decimal answer.value.toInt) ∧
    (p.error ≠ [] → p.steps = {} ∧ (p.error = "Entrée vide".toList ∨
      ∃ e : Failure, (∀ c, e ≠ .unexpectedToken c) ∧ p.error = e.message)) ∧
    (p.result = [] ∨ ∃ n : Int64, p.result = Text.decimal n.toInt) := by
  have explained := explained_performAll actions
  exact ⟨explained.of_steps, explained.of_error, explained.numeral⟩

theorem steps_explain_result_of_failure :
    let solved := (performAll {} [.replace "1+2".toList, .click .equals]).value
    let failed := (performAll {} [.replace "1+2".toList, .enter, .append "/0".toList, .enter]).value
    solved.steps ≠ {} ∧ solved.error = [] ∧
      (∃ answer, Calculation.result solved.steps.tokens = .ok answer ∧
        answer.steps = solved.steps ∧ solved.result = Text.decimal answer.value.toInt) ∧
      failed.error ≠ [] ∧ failed.steps = {} ∧ failed.result = "3".toList := by
  intro solved failed
  have shown : solved.steps ≠ {} := by decide +kernel
  have complains : failed.error ≠ [] := by decide +kernel
  have explained := (steps_explain_result [.replace "1+2".toList, .click .equals]).1 shown
  have refused := (steps_explain_result
    [.replace "1+2".toList, .enter, .append "/0".toList, .enter]).2.1 complains
  exact ⟨shown, explained.1, explained.2, complains, refused.1, by decide +kernel⟩

end IntegerCalculator.Panel
