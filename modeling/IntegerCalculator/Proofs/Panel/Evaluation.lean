import IntegerCalculator.Proofs.Calculation.Diagnosis
import IntegerCalculator.Proofs.Calculation.Solution
import IntegerCalculator.Proofs.Panel.Step

/-! One evaluation of an entry. It always decides the error that is shown, and the result
only if it succeeds: a failure, or an entry with nothing in it, leaves the result before
it in sight. -/

namespace IntegerCalculator

theorem Failure.message_ne_nil (e : Failure) : e.message ≠ [] := by
  cases e with
  | _ => exact List.cons_ne_nil _ _

namespace Panel

def complaint (entry : Text) : Text :=
  if (Text.trim entry).isEmpty then "Entrée vide".toList
  else
    match Calculation.value (Text.trim entry) with
    | .ok _ => []
    | .error e => e.message

theorem value_trim_of_blank {entry : Text} (blank : (Text.trim entry).isEmpty = true) :
    Calculation.value (Text.trim entry) = .error .malformedExpression := by
  rw [List.isEmpty_iff.1 blank]
  exact Calculation.value_of_blank (by simp)

theorem complaint_eq_nil_iff (entry : Text) :
    complaint entry = [] ↔ ∃ n, Calculation.value (Text.trim entry) = .ok n := by
  rw [complaint]
  split
  next blank =>
    rw [value_trim_of_blank blank]
    exact iff_of_false (List.cons_ne_nil _ _) fun ⟨_, computed⟩ => nomatch computed
  next =>
    cases computed : Calculation.value (Text.trim entry) with
    | ok n => exact iff_of_true rfl ⟨n, rfl⟩
    | error e =>
      exact iff_of_false e.message_ne_nil fun ⟨_, other⟩ => nomatch other

namespace Display

theorem error_evaluated (d : Display) (entry : Text) :
    (d.evaluated entry).error = complaint entry := by
  rw [evaluated, complaint]
  split
  · rfl
  · rw [Calculation.value]
    cases Calculation.result (Text.trim entry) with
    | ok | error => rfl

theorem result_evaluated (d : Display) (entry : Text) :
    (d.evaluated entry).result =
      match Calculation.value (Text.trim entry) with
      | .ok n => Text.decimal n.toInt
      | .error _ => d.result := by
  rw [evaluated]
  split
  next blank => rw [value_trim_of_blank blank]
  next =>
    rw [Calculation.value]
    cases Calculation.result (Text.trim entry) with
    | ok | error => rfl

end Display

end Panel

end IntegerCalculator
