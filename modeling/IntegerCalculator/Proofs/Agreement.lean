import IntegerCalculator.Proofs.CommandLine
import IntegerCalculator.Proofs.Panel.Evaluation
import IntegerCalculator.Proofs.Terminal.Session

/-! The three ways to submit a text agree. A text has its value on the command line, in the
terminal and on the panel alike, or in none of them; and a text that has one is calculated,
never taken for a command or for nothing. Where the calculation fails, the same message is
given in all three. -/

namespace IntegerCalculator

open Text (Bytes Mentions encode)

namespace Text

theorem encode_inj {s t : Text} (h : encode s = encode t) : s = t := by
  have same := congrArg decode? h
  rw [decode?_encode, decode?_encode] at same
  exact Option.some.inj same

theorem encode_cons_of_ascii {c : Char} (ascii : c.toNat < 128) (s : Text) :
    encode (c :: s) = UInt8.ofNat c.toNat :: encode s := by
  rw [encode, List.flatMap_cons, encodeChar_of_ascii ascii]
  rfl

theorem head_eq_of_encode_append {c d : Char} {s t : Text} {a b : Bytes} (ascii : c.toNat < 128)
    (ascii' : d.toNat < 128) (same : encode (c :: s) ++ a = encode (d :: t) ++ b) : c = d := by
  rw [encode_cons_of_ascii ascii, encode_cons_of_ascii ascii'] at same
  have bytes := congrArg UInt8.toNat (List.cons.inj same).1
  rw [UInt8.toNat_ofNat', UInt8.toNat_ofNat'] at bytes
  exact Char.toNat_inj.1 (by omega)

theorem exists_decimal_cons_lt (n : Int) : ∃ c s, decimal n = c :: s ∧ c.toNat < 58 := by
  obtain ⟨c, s, digits, first⟩ := exists_decimal_cons n
  refine ⟨c, s, digits, ?_⟩
  rcases first with rfl | digit
  · decide
  · exact Nat.lt_succ_of_le (Char.isDigit_iff_toNat.1 digit).2

end Text

namespace Calculation

theorem value_trim_of_clean {s : Text} (clean : Alphabet.Clean s) :
    value (Text.trim s) = value s := by
  have same : result (Text.trim s) = result s :=
    result_of_same (Alphabet.clean_trim clean) clean (Text.withoutBlanks_trim s)
      (Token.ofText_trim s)
  rw [value, same, value]

/-- The blanks around a text matter to the position of a refused character only. -/
theorem value_trim_eq_ok_iff (s : Text) (n : Int64) :
    value (Text.trim s) = .ok n ↔ value s = .ok n := by
  constructor
  · intro computed
    have clean := (exists_sentence_of_value computed).1
    rwa [value_trim_of_clean ((Alphabet.clean_trim_iff s).1 clean)] at computed
  · intro computed
    rwa [value_trim_of_clean (exists_sentence_of_value computed).1]

theorem exists_result_of_value {s : Text} {n : Int64} (h : value s = .ok n) :
    ∃ answer, result s = .ok answer ∧ answer.value = n := by
  rw [value] at h
  cases computed : result s with
  | ok answer =>
    rw [computed] at h
    exact ⟨answer, rfl, Except.ok.inj h⟩
  | error e =>
    rw [computed] at h
    contradiction

theorem result_of_value_error {s : Text} {e : Failure} (h : value s = .error e) :
    result s = .error e := by
  rw [value] at h
  cases computed : result s with
  | ok answer =>
    rw [computed] at h
    contradiction
  | error e' =>
    rw [computed] at h
    rw [Except.error.inj h]

end Calculation

namespace CommandLine

theorem once_of_value {s : Text} {n : Int64} (computed : Calculation.value (Text.trim s) = .ok n) :
    (once s).code = 0 ∧ (once s).output = encode (Text.decimal n.toInt ++ ['\n']) ∧
      (once s).diagnostics .errorsOnly = [] := by
  obtain ⟨answer, solved, rfl⟩ := Calculation.exists_result_of_value computed
  have seen := diagnostics_recorded s 0 (encode (Text.decimal answer.value.toInt ++ ['\n'])) []
  rw [List.map_nil, List.append_nil] at seen
  rw [once_of_result solved]
  exact ⟨rfl, rfl, seen⟩

theorem once_of_failure {s : Text} {e : Failure}
    (failed : Calculation.value (Text.trim s) = .error e) :
    (once s).code = 1 ∧ (once s).output = [] ∧
      (once s).diagnostics .errorsOnly = ["Erreur : ".toList ++ e.message] := by
  rw [once_of_error (Calculation.result_of_value_error failed)]
  exact ⟨rfl, rfl, diagnostics_recorded s 1 [] ["Erreur : ".toList ++ e.message]⟩

theorem once_prints_iff (s : Text) (n : Int64) :
    ((once s).code = 0 ∧ (once s).output = encode (Text.decimal n.toInt ++ ['\n']) ∧
      (once s).diagnostics .errorsOnly = []) ↔ Calculation.value (Text.trim s) = .ok n := by
  refine ⟨fun ⟨code, output, _⟩ => ?_, once_of_value⟩
  cases computed : Calculation.value (Text.trim s) with
  | ok m =>
    rw [(once_of_value computed).2.1] at output
    have digits := Text.decimal_inj (List.append_cancel_right (Text.encode_inj output))
    rw [Int64.toInt_inj.1 digits]
  | error e =>
    rw [(once_of_failure computed).1] at code
    contradiction

end CommandLine

namespace Terminal

theorem stays_of_value {s : Text} {n : Int64}
    (computed : Calculation.value (Text.trim s) = .ok n) : ¬ Mentions "exit".toList s := by
  rw [← Command.ofLine_eq_leave_iff, ofLine_of_value computed]
  exact Command.noConfusion

theorem exists_answerTo_cons {s : Text} {e : Failure}
    (failed : Calculation.value (Text.trim s) = .error e) :
    ∃ c t, answerTo s = c :: t ∧ 58 ≤ c.toNat ∧ c.toNat < 128 := by
  rw [answerTo, failed]
  split
  · exact ⟨'A', _, rfl, by decide, by decide⟩
  · split
    · exact ⟨'C', _, rfl, by decide, by decide⟩
    · split
      · exact ⟨'E', _, rfl, by decide, by decide⟩
      · exact ⟨'E', _, rfl, by decide, by decide⟩

theorem line_answered_iff {s : Text} (oneLine : '\n' ∉ s) {rest : Bytes} (ended : EndsLine s rest)
    (n : Int64) :
    let written (input : Bytes) := (deliver (exchanges (lines input))).written
    written (encode s ++ rest) =
        encode (prompt ++ (Text.decimal n.toInt ++ "\n\n".toList)) ++ written rest.tail ↔
      Calculation.value (Text.trim s) = .ok n := by
  intro written
  have line : written (encode s ++ rest) = _ := written_line oneLine ended
  rw [line]
  constructor
  · intro shown
    rw [Text.encode_append, Text.encode_append, List.append_assoc, List.append_assoc] at shown
    have shown := List.append_cancel_left shown
    cases computed : Calculation.value (Text.trim s) with
    | ok m =>
      rw [answerTo_of_value computed, if_neg (stays_of_value computed)] at shown
      have same := Text.encode_inj (List.append_cancel_right shown)
      have digits := Text.decimal_inj (List.append_cancel_right same)
      rw [Int64.toInt_inj.1 digits]
    | error e =>
      -- No numeral begins with a letter.
      obtain ⟨capital, others, answer, high, ascii⟩ := exists_answerTo_cons computed
      obtain ⟨digit, more, numeral, low⟩ := Text.exists_decimal_cons_lt n.toInt
      rw [answer, numeral] at shown
      obtain rfl := Text.head_eq_of_encode_append ascii (by omega) shown
      omega
  · intro computed
    rw [answerTo_of_value computed, if_neg (stays_of_value computed)]

end Terminal

namespace Panel

theorem submit_value (p : Panel) (s : Text) :
    (p.performAll [.replace s, .click .equals]).value =
      { p with entry := s }.showing (p.display.evaluated s) :=
  perform_equals { p with entry := s }

theorem result_shown_iff (d : Display) (s : Text) (n : Int64) :
    ((d.evaluated s).result = Text.decimal n.toInt ∧ (d.evaluated s).error = []) ↔
      Calculation.value (Text.trim s) = .ok n := by
  rw [Display.error_evaluated, complaint_eq_nil_iff, Display.result_evaluated]
  constructor
  · rintro ⟨shown, m, computed⟩
    rw [computed] at shown
    rw [computed, Int64.toInt_inj.1 (Text.decimal_inj shown)]
  · intro computed
    rw [computed]
    exact ⟨rfl, n, rfl⟩

end Panel

/-- A value is shown by each of the three exactly if the text has it, and a failure is told
by each of them in the same words. -/
theorem submissions_agree {s : Text} (oneLine : '\n' ∉ s) (input : Bytes) {rest : Bytes}
    (ended : Terminal.EndsLine s rest) (p : Panel) :
    let outcome := CommandLine.run [Request.assignment ++ s] input
    let written (input : Bytes) :=
      (Terminal.deliver (Terminal.exchanges (Terminal.lines input))).written
    let q := (p.performAll [.replace s, .click .equals]).value
    (∀ n : Int64,
      ((outcome.code = 0 ∧ outcome.output = encode (Text.decimal n.toInt ++ ['\n']) ∧
        outcome.diagnostics .errorsOnly = []) ↔ Calculation.value s = .ok n) ∧
      (written (encode s ++ rest) =
          encode (Terminal.prompt ++ (Text.decimal n.toInt ++ "\n\n".toList)) ++
            written rest.tail ↔ Calculation.value s = .ok n) ∧
      ((q.result = Text.decimal n.toInt ∧ q.error = []) ↔ Calculation.value s = .ok n) ∧
      (Calculation.value s = .ok n → Terminal.Command.ofLine s = .expression (Text.trim s))) ∧
    ∀ e, Calculation.value (Text.trim s) = .error e → Text.trim s ≠ [] →
      ¬ Mentions "exit".toList s → ¬ Mentions "help".toList s →
      (outcome.code = 1 ∧ outcome.output = [] ∧
        outcome.diagnostics .errorsOnly = ["Erreur : ".toList ++ e.message]) ∧
      written (encode s ++ rest) =
        encode (Terminal.prompt ++ ("Erreur : ".toList ++ e.message ++ ".\n\n".toList)) ++
          written rest.tail ∧
      q.error = e.message ∧ q.result = p.result ∧ q.entry = s := by
  intro outcome written q
  have once : outcome = CommandLine.once s := CommandLine.run_assignment s input
  have submitted : q = { p with entry := s }.showing (p.display.evaluated s) := p.submit_value s
  refine ⟨fun n => ?_, fun e failed visible stays quiet => ?_⟩
  · rw [once, submitted, ← Calculation.value_trim_eq_ok_iff]
    exact ⟨CommandLine.once_prints_iff s n, Terminal.line_answered_iff oneLine ended n,
      Panel.result_shown_iff p.display s n, Terminal.ofLine_of_value⟩
  · have evaluated : p.display.evaluated s = p.display.answered (.error e) := by
      rw [Panel.Display.evaluated_of_visible visible, Calculation.result_of_value_error failed]
    have line : written (encode s ++ rest) = _ := Terminal.written_line oneLine ended
    rw [Terminal.answerTo_of_error stays quiet visible failed, if_neg stays] at line
    rw [once, submitted, evaluated]
    exact ⟨CommandLine.once_of_failure failed, line, rfl, rfl, rfl⟩

theorem submissions_agree_on_quotients :
    let halved := "\t7/2 ".toList
    let faulty := "7/0 ".toList
    let outcome (s : Text) := CommandLine.run [Request.assignment ++ s] []
    let written (input : Bytes) :=
      (Terminal.deliver (Terminal.exchanges (Terminal.lines input))).written
    let q (s : Text) := (({} : Panel).performAll [.replace s, .click .equals]).value
    Calculation.value halved = .ok 3 ∧
      (outcome halved).output = encode "3\n".toList ∧
      written (encode halved ++ [10]) =
        encode (Terminal.prompt ++ "3\n\n".toList) ++ written [] ∧
      (q halved).result = "3".toList ∧
      Calculation.value (Text.trim faulty) = .error .divisionByZero ∧
      (outcome faulty).diagnostics .errorsOnly = ["Erreur : division par zéro".toList] ∧
      written (encode faulty ++ [10]) =
        encode (Terminal.prompt ++ "Erreur : division par zéro.\n\n".toList) ++ written [] ∧
      (q faulty).error = "division par zéro".toList := by
  intro halved faulty outcome written q
  have computed : Calculation.value halved = .ok 3 := by decide +kernel
  have failed : Calculation.value (Text.trim faulty) = .error .divisionByZero := by
    decide +kernel
  obtain ⟨once, line, panel, -⟩ :=
    (@submissions_agree halved (by decide) [] [10] (.inl rfl) {}).1 3
  obtain ⟨stopped, told, complained, -⟩ :=
    (@submissions_agree faulty (by decide) [] [10] (.inl rfl) {}).2
      _ failed (by decide) (by decide) (by decide)
  have numeral : Text.decimal (3 : Int64).toInt = "3".toList := rfl
  have blankLine : "3".toList ++ "\n\n".toList = "3\n\n".toList := rfl
  have message : "Erreur : ".toList ++ Failure.divisionByZero.message =
    "Erreur : division par zéro".toList := rfl
  have sentence : "Erreur : division par zéro".toList ++ ".\n\n".toList =
    "Erreur : division par zéro.\n\n".toList := rfl
  rw [numeral] at once line panel
  rw [blankLine] at line
  rw [message] at stopped told
  rw [sentence] at told
  exact ⟨computed, (once.2 computed).2.1, line.2 computed, (panel.2 computed).1, failed,
    stopped.2.2, told, complained⟩

end IntegerCalculator
