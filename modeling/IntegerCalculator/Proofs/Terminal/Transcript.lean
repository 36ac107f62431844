import IntegerCalculator.Proofs.Terminal.Session

/-! A whole session, for every input. It is the manual and then one prompt and one answer
for each line, up to the first line that asks to leave or is no text, or else to the end of
the input. No other line ends it, whatever its calculation comes to; and what follows the
line that ends it is never seen. -/

namespace IntegerCalculator.Terminal

open Text (Bytes Mentions decode? encode)

def goesOn (line : Bytes) : Bool :=
  match decode? line with
  | none => false
  | some s => !decide (Mentions "exit".toList s)

def answerBytes (line : Bytes) : Bytes :=
  match decode? line with
  | none => []
  | some s => encode (answerTo s)

/-- The lines up to the first that ends the session, this one included. -/
def answered (ls : List Bytes) : List Bytes :=
  ls.takeWhile goesOn ++ (ls.find? fun line => !goesOn line).toList

theorem answered_cons_of_goesOn {line : Bytes} (h : goesOn line = true) (more : List Bytes) :
    answered (line :: more) = line :: answered more := by
  simp [answered, h]

theorem answered_cons_of_ends {line : Bytes} (h : goesOn line = false) (more : List Bytes) :
    answered (line :: more) = [line] := by
  simp [answered, h]

theorem goesOn_encode (s : Text) : goesOn (encode s) = !decide (Mentions "exit".toList s) := by
  rw [goesOn, Text.decode?_encode]

theorem answerBytes_encode (s : Text) : answerBytes (encode s) = encode (answerTo s) := by
  rw [answerBytes, Text.decode?_encode]

theorem exchange_of_unreadable {line : Bytes} (h : decode? line = none) :
    exchange (some line) = ⟨[.unreadable], false⟩ := by
  rw [exchange, h]

theorem continues_exchange (line : Bytes) : (exchange (some line)).continues = goesOn line := by
  cases read : decode? line with
  | none => rw [exchange_of_unreadable read, goesOn, read]
  | some s =>
    rw [(Text.decode?_eq_some_iff line s).1 read, exchange_encode, goesOn_encode]
    simp [Command.ofLine_eq_leave_iff]

theorem exchanges_cons_of_goesOn {line : Bytes} (h : goesOn line = true) (more : List Bytes) :
    exchanges (line :: more) =
      .write prompt :: ((exchange (some line)).events ++ exchanges more) := by
  rw [exchanges, continues_exchange, h]
  rfl

theorem exchanges_cons_of_ends {line : Bytes} (h : goesOn line = false) (more : List Bytes) :
    exchanges (line :: more) = .write prompt :: (exchange (some line)).events := by
  rw [exchanges, continues_exchange, h]
  exact List.append_nil _

theorem deliver_exchange_encode (s : Text) (events : List Event) :
    deliver ((exchange (some (encode s))).events ++ events) =
      { deliver events with
        written := answerBytes (encode s) ++ (deliver events).written
        records := (Command.ofLine s).records ++ (deliver events).records } := by
  rw [exchange_encode, Command.deliver_answer, text_ofLine, answerBytes_encode]

theorem deliver_exchange_of_goesOn {line : Bytes} (h : goesOn line = true) (events : List Event) :
    let delivery := deliver ((exchange (some line)).events ++ events)
    delivery.written = answerBytes line ++ (deliver events).written ∧
      delivery.interruption? = (deliver events).interruption? ∧ decode? line ≠ none := by
  cases read : decode? line with
  | none => rw [goesOn, read] at h; contradiction
  | some s =>
    rw [(Text.decode?_eq_some_iff line s).1 read, deliver_exchange_encode]
    exact ⟨rfl, rfl, Option.some_ne_none s⟩

theorem deliver_exchange_of_ends (line : Bytes) :
    let delivery := deliver (exchange (some line)).events
    delivery.written = answerBytes line ∧
      delivery.interruption? = if decode? line = none then some .unreadableInput else none := by
  cases read : decode? line with
  | none =>
    rw [exchange_of_unreadable read, answerBytes, read]
    exact ⟨rfl, rfl⟩
  | some s =>
    have whole := deliver_exchange_encode s []
    rw [List.append_nil] at whole
    rw [(Text.decode?_eq_some_iff line s).1 read, whole]
    exact ⟨List.append_nil _, rfl⟩

theorem deliver_exchanges (ls : List Bytes) :
    let delivery := deliver (exchanges ls)
    delivery.written =
        (answered ls).flatMap (fun line => encode prompt ++ answerBytes line) ++
          (if ls.all goesOn then encode (prompt ++ ['\n']) else []) ∧
      delivery.interruption? =
        if (answered ls).any (fun line => decode? line = none) then some .unreadableInput
        else none := by
  induction ls with
  | nil =>
    refine ⟨?_, rfl⟩
    rw [exchanges, written_write, Text.encode_append]
    rfl
  | cons line more ih =>
    cases h : goesOn line with
    | true =>
      obtain ⟨written, interruption, readable⟩ := deliver_exchange_of_goesOn h (exchanges more)
      rw [exchanges_cons_of_goesOn h, answered_cons_of_goesOn h, List.all_cons, h, List.any_cons]
      refine ⟨?_, ?_⟩
      · rw [written_write, written, ih.1]
        simp
      · refine interruption.trans (ih.2.trans ?_)
        simp [readable]
    | false =>
      obtain ⟨written, interruption⟩ := deliver_exchange_of_ends line
      rw [exchanges_cons_of_ends h, answered_cons_of_ends h, List.all_cons, h]
      refine ⟨?_, ?_⟩
      · rw [written_write, written]
        simp
      · refine interruption.trans ?_
        simp

theorem exchange_concat_return (line : Bytes) :
    exchange (some (line ++ [13])) = exchange (some line) := by
  have read := Text.decode?_concat_return line
  cases text : decode? line with
  | none =>
    rw [text] at read
    rw [exchange_of_unreadable text, exchange_of_unreadable read]
  | some s =>
    have blank : Command.ofLine (s ++ ['\r']) = Command.ofLine s :=
      Command.ofLine_of_trim_eq (Text.trim_concat_of_blank (by decide) s)
    rw [(Text.decode?_eq_some_iff line s).1 text, ← Text.encode_concat_return, exchange_encode,
      exchange_encode, blank]

theorem exchange_withoutReturn (line : Bytes) :
    exchange (some (withoutReturn line)) = exchange (some line) := by
  rw [withoutReturn]
  split
  next last =>
    obtain ⟨kept, rfl⟩ := List.getLast?_eq_some_iff.1 last
    rw [List.dropLast_concat, exchange_concat_return]
  next => rfl

theorem exchanges_cons_congr {line other : Bytes} {more others : List Bytes}
    (same : exchange (some line) = exchange (some other))
    (rest : exchanges more = exchanges others) :
    exchanges (line :: more) = exchanges (other :: others) := by
  rw [exchanges, exchanges, same, rest]

/-- What follows a line that ends the session makes no difference. -/
theorem exchanges_of_ends {input : Bytes} (ends : ∃ line ∈ lines input, goesOn line = false)
    (rest : Bytes) : exchanges (lines (input ++ 10 :: rest)) = exchanges (lines input) := by
  induction input using lines_induct with
  | last l inside =>
    obtain ⟨line, member, ends⟩ := ends
    have nonempty : l ≠ [] := by
      rintro rfl
      contradiction
    rw [lines_of_lineFeed_not_mem inside nonempty] at member ⊢
    obtain rfl := List.mem_singleton.1 member
    -- The line feed that is added may take a return from the line.
    have ends' : goesOn (withoutReturn line) = false := by
      rw [← continues_exchange, exchange_withoutReturn, continues_exchange, ends]
    rw [lines_append_lineFeed inside, exchanges_cons_of_ends ends', exchanges_cons_of_ends ends,
      exchange_withoutReturn]
  | line l input inside ih =>
    rw [List.append_assoc, List.cons_append, lines_append_lineFeed inside,
      lines_append_lineFeed inside]
    cases h : goesOn (withoutReturn l) with
    | false => rw [exchanges_cons_of_ends h, exchanges_cons_of_ends h]
    | true =>
      refine exchanges_cons_congr rfl (ih ?_)
      obtain ⟨line, member, ends⟩ := ends
      rw [lines_append_lineFeed inside, List.mem_cons] at member
      rcases member with rfl | later
      · rw [h] at ends
        contradiction
      · exact ⟨line, later, ends⟩

def withReturns (input : Bytes) : Bytes := input.flatMap fun b => if b = 10 then [13, 10] else [b]

theorem withReturns_eq_self {l : Bytes} (h : 10 ∉ l) : withReturns l = l := by
  induction l with
  | nil => rfl
  | cons b l ih =>
    obtain ⟨other, inside⟩ := List.ne_and_not_mem_of_not_mem_cons h
    rw [withReturns, List.flatMap_cons, if_neg fun same => other same.symm]
    exact congrArg (List.cons b) (ih inside)

theorem withReturns_append_lineFeed {l : Bytes} (h : 10 ∉ l) (rest : Bytes) :
    withReturns (l ++ 10 :: rest) = (l ++ [13]) ++ 10 :: withReturns rest := by
  have front := withReturns_eq_self h
  rw [withReturns] at front
  rw [withReturns, List.flatMap_append, front, List.append_assoc]
  rfl

theorem exchanges_withReturns (input : Bytes) :
    exchanges (lines (withReturns input)) = exchanges (lines input) := by
  induction input using lines_induct with
  | last l inside => rw [withReturns_eq_self inside]
  | line l input inside ih =>
    have inside' : 10 ∉ l ++ [13] := by simpa using inside
    rw [withReturns_append_lineFeed inside, lines_append_lineFeed inside', withoutReturn_concat,
      lines_append_lineFeed inside]
    exact exchanges_cons_congr (exchange_withoutReturn l).symm ih

/-- A session answers its lines one by one, each for itself, up to the first that ends it. -/
theorem session_answers_each_line (input : Bytes) :
    let ls := lines input
    let delivery := deliver (session input)
    delivery.written =
        encode manual ++ (answered ls).flatMap (fun line => encode prompt ++ answerBytes line) ++
          (if ls.all goesOn then encode (prompt ++ ['\n']) else []) ∧
      delivery.interruption? =
        (if (answered ls).any (fun line => decode? line = none) then some .unreadableInput
        else none) ∧
      (∀ rest, (∃ line ∈ ls, goesOn line = false) → session (input ++ 10 :: rest) = session input) ∧
      session (withReturns input) = session input := by
  intro ls delivery
  obtain ⟨written, interruption⟩ := deliver_exchanges ls
  refine ⟨?_, interruption, fun rest ends => ?_, ?_⟩
  · rw [List.append_assoc, ← written]
    exact written_write manual (exchanges ls)
  · rw [session, exchanges_of_ends ends]
    rfl
  · rw [session, exchanges_withReturns]
    rfl

theorem session_answers_each_line_until_exit :
    let input := encode "5/0\r\n \n7/2\nto EXIT".toList
    (∃ line ∈ lines input, goesOn line = false) ∧
      session (input ++ 10 :: [0xFF, 10]) = session input ∧
      (deliver (session input)).written =
        encode (manual ++ prompt ++ "Erreur : division par zéro.\n\n".toList ++
          prompt ++ "Erreur : expression vide.\n\n".toList ++
          prompt ++ "3\n\n".toList ++ prompt ++ "Au revoir !\n".toList) := by
  intro input
  have ends : ∃ line ∈ lines input, goesOn line = false :=
    ⟨encode "to EXIT".toList, by decide +kernel, by decide +kernel⟩
  obtain ⟨written, -, rest, -⟩ := session_answers_each_line input
  exact ⟨ends, rest _ ends, written.trans (by decide +kernel)⟩

end IntegerCalculator.Terminal
