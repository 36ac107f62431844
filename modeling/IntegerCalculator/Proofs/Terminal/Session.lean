import IntegerCalculator.Proofs.Calculation.Diagnosis
import IntegerCalculator.Proofs.Calculation.Solution
import IntegerCalculator.Proofs.Terminal.Line

/-! One line of a session. From any prompt on, a line has its answer written and, unless it
asks to leave, leaves the rest of the input to the rest of the session. Blanks around a line
hide no command word, so the answer can be said of the line as it was typed: the words that
stand in it decide first, and then what it comes to without the blanks. A line that has a
value names no command. -/

namespace IntegerCalculator

namespace Text

def Mentions (word s : Text) : Prop := word <:+: s.map Char.toLower

instance (word s : Text) : Decidable (Mentions word s) := inferInstanceAs (Decidable (_ <:+: _))

theorem toLower_of_isBlank {w : Char} (blank : isBlank w = true) : w.toLower = w := by
  obtain ⟨r, member, low, high⟩ := (inRanges_iff blankRanges w).1 blank
  have apart : ∀ r ∈ blankRanges, r.2 < 65 ∨ 90 < r.1 := by decide
  have around := apart r member
  refine dif_neg fun upper => ?_
  have first : 65 ≤ w.toNat := upper.1
  have last : w.toNat ≤ 90 := upper.2
  omega

theorem mentions_trim {word : Text} (visible : word.any isBlank = false) (s : Text) :
    Mentions word (trim s) ↔ Mentions word s := by
  have apart {w : Char} (blank : isBlank w = true) : w.toLower ∉ word := by
    intro member
    rw [toLower_of_isBlank blank] at member
    exact List.any_eq_false.1 visible w member blank
  suffices Mentions word (trim s) = Mentions word s by rw [this]
  apply eq_of_trim
  · intro w s blank
    rw [Mentions, List.map_cons, List.infix_cons_iff, Mentions, eq_iff_iff, or_iff_right_iff_imp]
    intro front
    rcases List.prefix_cons_iff.1 front with rfl | ⟨rest, rfl, -⟩
    · exact List.nil_infix
    · exact absurd List.mem_cons_self (apart blank)
  · intro w s blank
    rw [Mentions, List.map_append, List.map_singleton, List.infix_concat_iff, Mentions, eq_iff_iff,
      or_iff_right_iff_imp]
    intro back
    rcases List.suffix_concat_iff.1 back with rfl | ⟨rest, rfl, -⟩
    · exact List.nil_infix
    · exact absurd (List.mem_append_right rest List.mem_cons_self) (apart blank)

/-- What no permitted character is the lower case of stands in no expression. -/
theorem not_mentions_of_clean {word s : Text} {c : Char} (member : c ∈ word)
    (visible : isBlank c = false) (foreign : c ∉ Alphabet.characters.map Char.toLower)
    (clean : Alphabet.Clean s) : ¬ Mentions word s := by
  intro found
  obtain ⟨d, stands, lower⟩ := List.mem_map.1 (found.subset member)
  refine clean d stands ⟨?_, fun permitted => foreign (List.mem_map.2 ⟨d, permitted, lower⟩)⟩
  cases blank : isBlank d with
  | false => rfl
  | true =>
    rw [toLower_of_isBlank blank] at lower
    rw [lower, visible] at blank
    contradiction

theorem trim_isEmpty (s : Text) : (trim s).isEmpty = s.all isBlank := by
  rw [Bool.eq_iff_iff, List.isEmpty_iff, trim_eq_nil_iff, withoutBlanks, List.filter_eq_nil_iff,
    List.all_eq_true]
  simp

end Text

namespace Terminal

open Text (Bytes Mentions encode)

@[simp] theorem written_write (text : Text) (events : List Event) :
    (deliver (.write text :: events)).written = encode text ++ (deliver events).written := rfl

theorem deliver_records (rs : List Record) (events : List Event) :
    deliver (rs.map .record ++ events) =
      { deliver events with records := rs ++ (deliver events).records } := by
  induction rs with
  | nil => rfl
  | cons r rs ih =>
    change (deliver (rs.map .record ++ events)).afterRecord r = _
    rw [ih]
    rfl

namespace Command

theorem ofLine_of_trim_eq {s t : Text} (h : Text.trim s = Text.trim t) : ofLine s = ofLine t := by
  rw [ofLine, ofLine, h]

theorem containsWord_trim {word : Text} (visible : word.any Text.isBlank = false) (s : Text) :
    Text.containsWord word ((Text.trim s).map Char.toLower) = decide (Mentions word s) := by
  rw [Bool.eq_iff_iff, Text.containsWord_iff, decide_eq_true_iff]
  exact Text.mentions_trim visible s

theorem ofLine_eq (s : Text) :
    ofLine s =
      if Mentions "exit".toList s then leave
      else if Mentions "help".toList s then help
      else if s.all Text.isBlank then nothing
      else expression (Text.trim s) := by
  have exit := @containsWord_trim "exit".toList rfl s
  have help := @containsWord_trim "help".toList rfl s
  simp only [ofLine, exit, help, Text.trim_isEmpty, decide_eq_true_eq]

theorem ofLine_eq_leave_iff (s : Text) : ofLine s = leave ↔ Mentions "exit".toList s := by
  rw [ofLine_eq]
  constructor
  · intro left
    by_contra stays
    rw [if_neg stays] at left
    split at left
    · contradiction
    · split at left <;> contradiction
  · exact fun exit => if_pos exit

def text : Command → Text
  | leave => "Au revoir !\n".toList
  | help => manual
  | nothing => "Erreur : expression vide.\n\n".toList
  | expression s => reply (Calculation.result s)

def records : Command → List Record
  | expression s =>
      ⟨.debug, .terminal, "console: ".toList ++ Text.quoted s⟩ :: (Calculation.solve s).records
  | _ => []

theorem deliver_answer (c : Command) (events : List Event) :
    deliver (c.answer ++ events) =
      { deliver events with
        written := encode c.text ++ (deliver events).written
        records := c.records ++ (deliver events).records } := by
  cases c with
  | leave | help | nothing => rfl
  | expression s =>
    have split : (expression s).answer ++ events =
        (expression s).records.map .record ++ .write (expression s).text :: events := by
      rw [answer, records, List.map_cons, List.cons_append, List.cons_append, List.append_assoc]
      rfl
    rw [split, deliver_records]
    rfl

theorem reply_result (s : Text) :
    reply (Calculation.result s) =
      match Calculation.value s with
      | .ok n => Text.decimal n.toInt ++ "\n\n".toList
      | .error e => "Erreur : ".toList ++ e.message ++ ".\n\n".toList := by
  rw [Calculation.value]
  cases Calculation.result s with
  | ok | error => rfl

end Command

def answerTo (s : Text) : Text :=
  if Mentions "exit".toList s then "Au revoir !\n".toList
  else if Mentions "help".toList s then manual
  else if s.all Text.isBlank then "Erreur : expression vide.\n\n".toList
  else
    match Calculation.value (Text.trim s) with
    | .ok n => Text.decimal n.toInt ++ "\n\n".toList
    | .error e => "Erreur : ".toList ++ e.message ++ ".\n\n".toList

theorem text_ofLine (s : Text) : (Command.ofLine s).text = answerTo s := by
  rw [Command.ofLine_eq, answerTo]
  split
  · rfl
  · split
    · rfl
    · split
      · rfl
      · exact Command.reply_result (Text.trim s)

theorem ofLine_of_value {s : Text} {n : Int64}
    (computed : Calculation.value (Text.trim s) = .ok n) :
    Command.ofLine s = .expression (Text.trim s) := by
  have clean := (Alphabet.clean_trim_iff s).1 (Calculation.exists_sentence_of_value computed).1
  have stays : ¬ Mentions "exit".toList s :=
    @Text.not_mentions_of_clean _ _ 'x' (by decide) rfl (by decide) clean
  have quiet : ¬ Mentions "help".toList s :=
    @Text.not_mentions_of_clean _ _ 'h' (by decide) rfl (by decide) clean
  have visible : ¬ s.all Text.isBlank = true := by
    intro blank
    rw [← Text.trim_isEmpty, List.isEmpty_iff] at blank
    rw [blank, Calculation.value_of_blank (by simp)] at computed
    contradiction
  rw [Command.ofLine_eq, if_neg stays, if_neg quiet, if_neg visible]

theorem answerTo_of_value {s : Text} {n : Int64}
    (computed : Calculation.value (Text.trim s) = .ok n) :
    answerTo s = Text.decimal n.toInt ++ "\n\n".toList := by
  rw [← text_ofLine, ofLine_of_value computed]
  change Command.reply (Calculation.result (Text.trim s)) = _
  rw [Command.reply_result, computed]

theorem answerTo_of_error {s : Text} {e : Failure} (stays : ¬ Mentions "exit".toList s)
    (quiet : ¬ Mentions "help".toList s) (visible : Text.trim s ≠ [])
    (failed : Calculation.value (Text.trim s) = .error e) :
    answerTo s = "Erreur : ".toList ++ e.message ++ ".\n\n".toList := by
  have filled : ¬ s.all Text.isBlank = true := by
    rwa [← Text.trim_isEmpty, List.isEmpty_iff]
  rw [answerTo, if_neg stays, if_neg quiet, if_neg filled, failed]

theorem exchange_encode (s : Text) :
    exchange (some (encode s)) = ⟨(Command.ofLine s).answer, Command.ofLine s ≠ .leave⟩ := by
  simp [exchange]

theorem exchanges_encode (s : Text) (more : List Bytes) :
    exchanges (encode s :: more) =
      .write prompt :: (Command.ofLine s).answer ++
        if Command.ofLine s ≠ .leave then exchanges more else [] := by
  rw [exchanges, exchange_encode]
  simp

/-- A prompt, the answer to the line, and the rest of the session if it goes on. -/
theorem written_line {s : Text} (oneLine : '\n' ∉ s) {rest : Bytes} (ended : EndsLine s rest) :
    (deliver (exchanges (lines (encode s ++ rest)))).written =
      encode (prompt ++ answerTo s) ++
        if Mentions "exit".toList s then [] else (deliver (exchanges (lines rest.tail))).written := by
  obtain ⟨t, same, read⟩ := exists_line oneLine ended
  rw [read, exchanges_encode, List.cons_append, written_write, Command.deliver_answer,
    Command.ofLine_of_trim_eq same, text_ofLine, Text.encode_append, List.append_assoc]
  congr 2
  by_cases exit : Mentions "exit".toList s
  · rw [if_pos exit, if_neg (not_not_intro ((Command.ofLine_eq_leave_iff s).2 exit))]
    rfl
  · rw [if_neg exit, if_pos (mt (Command.ofLine_eq_leave_iff s).1 exit)]

end Terminal

end IntegerCalculator
