import IntegerCalculator.CommandLine
import IntegerCalculator.Proofs.Calculation.Journal

/-! The program called for one expression. Where no filter is set for its journal, only
errors are shown of what is recorded, and a calculation records none: then there is the value
on the output, or one line on the error stream, and nothing else to be seen. -/

namespace IntegerCalculator

theorem Filter.admits_errorsOnly (r : Record) :
    errorsOnly.admits r = decide (r.level = .error) := by
  obtain ⟨level, source, text⟩ := r
  cases level <;> rfl

namespace CommandLine

theorem ofArguments?_assignment (s : Text) :
    Request.ofArguments? [Request.assignment ++ s] = some (.once s) := by
  have notHelp : Request.asksForHelp (Request.assignment ++ s) = false := rfl
  have notConsole : Request.assignment ++ s ≠ "--console".toList :=
    ne_of_apply_ne (·[2]?) (show some 'e' ≠ some 'c' by decide)
  have notBare : Request.assignment ++ s ≠ "--expr".toList :=
    ne_of_apply_ne (·[6]?) (show some '=' ≠ none by decide)
  have assigned : Request.assignment.isPrefixOf (Request.assignment ++ s) = true := by simp
  rw [Request.ofArguments?, Request.read?.eq_def]
  simp only [notHelp, notConsole, notBare, assigned]
  simp [Request.Options.withExpression?, Request.read?, Request.Options.request?]

theorem run_assignment (s : Text) (input : Text.Bytes) :
    run [Request.assignment ++ s] input = once s := by
  rw [run, ofArguments?_assignment]
  rfl

def recorded (s : Text) : List Notice :=
  announce "évaluation unique".toList :: (Calculation.solve (Text.trim s)).records.map .record

theorem once_of_result {s : Text} {answer : Solution}
    (computed : Calculation.result (Text.trim s) = .ok answer) :
    once s = ⟨0, Text.encode (Text.decimal answer.value.toInt ++ ['\n']), recorded s⟩ := by
  rw [Calculation.result] at computed
  simp only [once, computed, recorded]

theorem once_of_error {s : Text} {e : Failure}
    (failed : Calculation.result (Text.trim s) = .error e) :
    once s = ⟨1, [], recorded s ++ [.plain ("Erreur : ".toList ++ e.message)]⟩ := by
  rw [Calculation.result] at failed
  simp only [once, failed, recorded]

theorem getLast?_diagnostics {o : Outcome} {notices : List Notice} {text : Text}
    (h : o.notices = notices ++ [.plain text]) (f : Filter) :
    (o.diagnostics f).getLast? = some text := by
  rw [Outcome.diagnostics, Outcome.shown, h, List.filter_append, List.map_append]
  simp [Notice.line]

theorem level_of_mem_recorded {s : Text} {n : Notice} (h : n ∈ recorded s) :
    ∃ r : Record, n = .record r ∧ r.level ≠ .error := by
  rcases List.mem_cons.1 h with rfl | h
  · exact ⟨_, rfl, Level.noConfusion⟩
  · obtain ⟨r, stands, rfl⟩ := List.mem_map.1 h
    exact ⟨r, rfl, Calculation.level_ne_error_of_mem_records stands⟩

theorem diagnostics_recorded (s : Text) (code : Nat) (output : Text.Bytes) (plain : List Text) :
    Outcome.diagnostics .errorsOnly ⟨code, output, recorded s ++ plain.map .plain⟩ = plain := by
  have hidden : Outcome.shown .errorsOnly ⟨code, output, recorded s⟩ = [] := by
    refine List.filter_eq_nil_iff.2 fun n member => ?_
    obtain ⟨r, rfl, level⟩ := level_of_mem_recorded member
    simp [Filter.admits_errorsOnly, level]
  have kept : Outcome.shown .errorsOnly ⟨code, output, plain.map .plain⟩ = plain.map .plain := by
    refine List.filter_eq_self.2 fun n member => ?_
    obtain ⟨text, -, rfl⟩ := List.mem_map.1 member
    rfl
  rw [Outcome.shown] at hidden kept
  rw [Outcome.diagnostics, Outcome.shown, List.filter_append, hidden, kept, List.nil_append,
    List.map_map]
  exact List.map_id plain

end CommandLine

end IntegerCalculator
