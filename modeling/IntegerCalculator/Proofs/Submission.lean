import IntegerCalculator.Proofs.Calculation.Solution
import IntegerCalculator.Proofs.CommandLine
import IntegerCalculator.Proofs.Panel.Step
import IntegerCalculator.Proofs.Terminal.Session

/-! The three ways to submit a text: as the value of an option, as a line of the terminal,
and as the entry of the panel. Each leaves out the blanks around the text before it is
calculated, so the position that is reported for a refused character does not count the
blanks in front. -/

namespace IntegerCalculator

open Alphabet (FirstRefused)

structure Rejected (s message : Text) : Prop where
  once : ∀ arguments, Request.ofArguments? arguments = some (.once s) → ∀ input f,
    let outcome := CommandLine.run arguments input
    outcome.code = 1 ∧ outcome.output = [] ∧
      (outcome.diagnostics f).getLast? = some ("Erreur : ".toList ++ message)
  line : ∀ rest : Text.Bytes, rest = [] ∨ rest.head? = some 10 →
    let written (input : Text.Bytes) :=
      (Terminal.deliver (Terminal.exchanges (Terminal.lines input))).written
    written (Text.encode s ++ rest) =
      Text.encode (Terminal.prompt ++ ("Erreur : ".toList ++ message ++ ".\n\n".toList)) ++
        written rest.tail
  entry : ∀ p : Panel, (p.performAll [.replace s, .click .equals]).value.error = message

theorem Rejected.unique {s m n : Text} (h : Rejected s m) (h' : Rejected s n) : m = n :=
  (h.entry {}).symm.trans (h'.entry {})

theorem rejected_of_result {s : Text} {e : Failure}
    (failed : Calculation.result (Text.trim s) = .error e) (visible : Text.trim s ≠ [])
    (oneLine : '\n' ∉ s) (stays : ¬ "exit".toList <:+: s.map Char.toLower)
    (quiet : ¬ "help".toList <:+: s.map Char.toLower) : Rejected s e.message where
  once arguments asked input f := by
    have outcome := CommandLine.once_of_error failed
    simp only [CommandLine.run, asked, CommandLine.perform, outcome]
    exact ⟨trivial, trivial, CommandLine.getLast?_diagnostics rfl f⟩
  line rest ended := by
    have typed : s ≠ [] := fun empty => visible (by rw [empty, Text.trim_nil])
    have ended : Terminal.EndsLine s rest := ended.symm.imp_right fun empty => ⟨empty, typed⟩
    have answer := Terminal.answerTo_of_error stays quiet visible
      (Calculation.value_of_result_error failed)
    have line := Terminal.written_line oneLine ended
    rw [answer] at line
    exact line.trans (congrArg (_ ++ ·) (if_neg stays))
  entry p := by
    have evaluated : p.display.evaluated s = p.display.answered (.error e) := by
      rw [Panel.Display.evaluated_of_visible visible, failed]
    rw [Panel.performAll_cons, Panel.performAll_cons, Panel.performAll_nil, Panel.perform_equals]
    exact congrArg Panel.Display.error evaluated

/-- The position that is reported is the one behind the blanks in front, which is the
position in the text as typed only if there are none. -/
theorem position_behind_margin {s : Text} {position : Nat} {c : Char}
    (first : FirstRefused s position c) (oneLine : '\n' ∉ s)
    (stays : ¬ "exit".toList <:+: s.map Char.toLower)
    (quiet : ¬ "help".toList <:+: s.map Char.toLower) :
    Rejected s (Failure.invalidCharacter c (position - Text.margin s)).message ∧
      (Rejected s (Failure.invalidCharacter c position).message ↔
        ∀ w, s.head? = some w → Text.isBlank w = false) := by
  obtain ⟨behind, within⟩ := first.trim
  have visible : Text.trim s ≠ [] := by
    intro empty
    have stands := within.stands
    rw [empty] at stands
    contradiction
  have failed := Calculation.result_of_check_error (Calculation.check_of_firstRefused within)
  have rejected := rejected_of_result failed visible oneLine stays quiet
  refine ⟨rejected, ?_⟩
  rw [← Text.margin_eq_zero_iff]
  constructor
  · intro typed
    have same := (Failure.invalidCharacter.inj (Failure.message_inj (typed.unique rejected))).2
    omega
  · intro none
    rwa [none, Nat.sub_zero] at rejected

theorem position_behind_tab :
    let s := "\t1+é".toList
    Rejected s (Failure.invalidCharacter 'é' 2).message ∧
      ¬ Rejected s (Failure.invalidCharacter 'é' 3).message ∧
      (CommandLine.run [Request.assignment ++ s] []).code = 1 := by
  intro s
  have first : FirstRefused s 3 'é' := ⟨by decide, by decide, by decide⟩
  obtain ⟨rejected, typed⟩ := position_behind_margin first (by decide) (by decide) (by decide)
  refine ⟨rejected, fun counted => ?_, ?_⟩
  · have front := typed.1 counted '\t' rfl
    contradiction
  · exact (rejected.once _ (CommandLine.ofArguments?_assignment s) [] .errorsOnly).1

theorem position_behind_space :
    let s := " x".toList
    FirstRefused s 1 'x' ∧ '\n' ∉ s ∧
      ¬ "exit".toList <:+: s.map Char.toLower ∧ ¬ "help".toList <:+: s.map Char.toLower ∧
      Request.ofArguments? ["--expr".toList, s] = some (.once s) ∧
      ¬ Rejected s (Failure.invalidCharacter 'x' 1).message := by
  intro s
  refine ⟨⟨by decide, by decide, by decide⟩, by decide, by decide, by decide, by decide, ?_⟩
  intro typed
  have shown := typed.entry {}
  have reported : (({} : Panel).performAll [.replace s, .click .equals]).value.error =
      (Failure.invalidCharacter 'x' 0).message := by decide +kernel
  rw [reported] at shown
  exact absurd (Failure.message_inj shown) (by decide)

end IntegerCalculator
