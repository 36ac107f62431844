import IntegerCalculator.Calculation

/-! What a calculation records: the tokens if it gets as far, then their converted order if
it gets as far as that, and a warning if it fails. None of it is an error of the program.

The warning names the text and the failure. A text in quotes can be read back character
by character, up to the quote that ends it, so neither the text nor what follows the
quote is left open; and no two failures have one message. -/

namespace IntegerCalculator

namespace Calculation

/-- The stages that are passed, each with what it made of the text. -/
def notes (s : Text) : List Record :=
  match read s with
  | .error _ => []
  | .ok ts =>
      note "jetons: " ts ::
        match Postfix.ofTokens ts with
        | .error _ => []
        | .ok us => [note "rpn: " us]

def warning (s : Text) (e : Failure) : Record :=
  ⟨.warn, .calculation, "échec d’évaluation de ".toList ++ Text.quoted s ++ ": ".toList ++ e.message⟩

theorem notes_of_read_error {s : Text} {e : Failure} (h : read s = .error e) : notes s = [] := by
  rw [notes, h]

theorem notes_of_refused {s : Text} {ts : List Token} {e : Failure} (h : read s = .ok ts)
    (refused : Postfix.ofTokens ts = .error e) : notes s = [note "jetons: " ts] := by
  simp only [notes, h, refused]

theorem notes_of_converted {s : Text} {ts us : List Token} (h : read s = .ok ts)
    (converted : Postfix.ofTokens ts = .ok us) :
    notes s = [note "jetons: " ts, note "rpn: " us] := by
  simp only [notes, h, converted]

theorem records_attempt (s : Text) : (attempt s).records = notes s := by
  rw [attempt, notes]
  cases read s with
  | error e => rfl
  | ok ts =>
    simp only [Logged.bind_records]
    cases Postfix.ofTokens ts with
    | error e => rfl
    | ok us => rfl

theorem records_solve (s : Text) :
    (solve s).records =
      notes s ++
        match result s with
        | .ok _ => []
        | .error e => [warning s e] := by
  rw [solve, Logged.bind_records, records_attempt, result_eq_attempt]
  cases (attempt s).value with
  | ok answer => rfl
  | error e => rfl

theorem records_of_result {s : Text} {answer : Solution} (h : result s = .ok answer) :
    (solve s).records = notes s := by
  rw [records_solve, h, List.append_nil]

theorem records_of_result_error {s : Text} {e : Failure} (h : result s = .error e) :
    (solve s).records = notes s ++ [warning s e] := by
  rw [records_solve, h]

theorem level_of_mem_notes {s : Text} {r : Record} (h : r ∈ notes s) : r.level = .debug := by
  rw [notes] at h
  split at h
  · contradiction
  · rcases List.mem_cons.1 h with rfl | h
    · rfl
    · split at h
      · contradiction
      · rw [List.mem_singleton.1 h]
        rfl

theorem level_ne_error_of_mem_records {s : Text} {r : Record} (h : r ∈ (solve s).records) :
    r.level ≠ .error := by
  rw [records_solve] at h
  rcases List.mem_append.1 h with stage | last
  · rw [level_of_mem_notes stage]
    decide
  · split at last
    · contradiction
    · rw [List.mem_singleton.1 last]
      simp [warning]

end Calculation

namespace Text

def hexDigit (c : Char) : Nat :=
  if c.isDigit then c.toNat - '0'.toNat else c.toNat - 'a'.toNat + 10

def hexValue (digits : Text) : Nat := digits.foldl (fun n c => 16 * n + hexDigit c) 0

theorem hexDigit_digitChar : ∀ d < 16, hexDigit d.digitChar = d := by decide

theorem hexValue_concat (digits : Text) (c : Char) :
    hexValue (digits ++ [c]) = 16 * hexValue digits + hexDigit c := by
  simp [hexValue]

theorem hexValue_toDigits (n : Nat) : hexValue (Nat.toDigits 16 n) = n := by
  induction n using Nat.strongRecOn with
  | ind n ih =>
    rw [Nat.toDigits_eq_if (by decide)]
    split
    next small => simpa [hexValue] using hexDigit_digitChar n small
    next large =>
      have higher := ih (n / 16) (by omega)
      have last := hexDigit_digitChar (n % 16) (Nat.mod_lt n (by decide))
      rw [hexValue_concat, higher, last]
      omega

theorem ne_brace_of_mem_toDigits {n : Nat} {c : Char} (h : c ∈ Nat.toDigits 16 n) :
    c ≠ '\x7d' := by
  induction n using Nat.strongRecOn with
  | ind n ih =>
    rw [Nat.toDigits_eq_if (by decide)] at h
    split at h
    next small =>
      rw [List.mem_singleton.1 h]
      exact Nat.digitChar_ne '\x7d' (by decide)
    next large =>
      rcases List.mem_append.1 h with higher | last
      · exact ih (n / 16) (by omega) higher
      · rw [List.mem_singleton.1 last]
        exact Nat.digitChar_ne '\x7d' (by decide)

def letters : List (Char × Char) :=
  [('\"', '\"'), ('\\', '\\'), ('n', '\n'), ('r', '\r'), ('t', '\t'), ('0', '\x00')]

/-- Reads one character of a text in quotes, and returns what follows it. The closing
quote is none. -/
def unescape? : Text → Option (Char × Text)
  | '\\' :: 'u' :: '\x7b' :: rest =>
      let digits := rest.takeWhile (· != '\x7d')
      some (Char.ofNat (hexValue digits), (rest.dropWhile (· != '\x7d')).drop 1)
  | '\\' :: letter :: rest => (letters.lookup letter).map fun c => (c, rest)
  | c :: rest => if c = '\"' then none else some (c, rest)
  | [] => none

theorem unescape?_codePoint (c : Char) (rest : Text) :
    unescape? (codePoint c ++ rest) = some (c, rest) := by
  have opened : codePoint c ++ rest =
      '\\' :: 'u' :: '\x7b' :: (Nat.toDigits 16 c.toNat ++ '\x7d' :: rest) := by
    simp [codePoint]
  have digits : ∀ d ∈ Nat.toDigits 16 c.toNat, (d != '\x7d') = true := fun d hd =>
    bne_iff_ne.2 (ne_brace_of_mem_toDigits hd)
  rw [opened, unescape?, List.takeWhile_append_of_pos digits, List.dropWhile_append_of_pos digits]
  simp [hexValue_toDigits]

theorem unescape?_cons {c : Char} (quote : c ≠ '\"') (backslash : c ≠ '\\') (rest : Text) :
    unescape? (c :: rest) = some (c, rest) := by
  unfold unescape?
  split <;> simp_all

theorem unescape?_escape (c : Char) (rest : Text) :
    unescape? (escape c ++ rest) = some (c, rest) := by
  rw [escape]
  by_cases quote : c = '\"'
  · subst quote
    rfl
  by_cases backslash : c = '\\'
  · subst backslash
    rfl
  by_cases lineFeed : c = '\n'
  · subst lineFeed
    rfl
  by_cases carriageReturn : c = '\r'
  · subst carriageReturn
    rfl
  by_cases tab : c = '\t'
  · subst tab
    rfl
  by_cases null : c = '\x00'
  · subst null
    rfl
  rw [if_neg quote, if_neg backslash, if_neg lineFeed, if_neg carriageReturn, if_neg tab,
    if_neg null]
  split
  next seen => exact unescape?_cons quote backslash rest
  next unseen => exact unescape?_codePoint c rest

theorem unescape?_flatMap_escape (c : Char) (s rest : Text) :
    unescape? ((c :: s).flatMap escape ++ rest) = some (c, s.flatMap escape ++ rest) := by
  rw [List.flatMap_cons, List.append_assoc, unescape?_escape]

/-- A text in quotes is told apart from what is written after it. -/
theorem quoted_append_inj {s t u v : Text} (h : quoted s ++ u = quoted t ++ v) :
    s = t ∧ u = v := by
  simp only [quoted, List.cons_append, List.append_assoc, List.nil_append] at h
  replace h := (List.cons.inj h).2
  -- What is read first is the same on both sides; the quote at the end reads as nothing.
  induction s generalizing t with
  | nil =>
    cases t with
    | nil => exact ⟨rfl, (List.cons.inj h).2⟩
    | cons d t =>
      have first := congrArg unescape? h
      rw [unescape?_flatMap_escape] at first
      contradiction
  | cons c s ih =>
    have first := congrArg unescape? h
    rw [unescape?_flatMap_escape] at first
    cases t with
    | nil => contradiction
    | cons d t =>
      rw [unescape?_flatMap_escape] at first
      obtain ⟨rfl, rest⟩ := Prod.mk.inj (Option.some.inj first)
      obtain ⟨rfl, after⟩ := ih rest
      exact ⟨rfl, after⟩

end Text

namespace Failure

-- These are stated since unfolding `message` would compare the literals of all messages.
theorem message_invalidCharacter (c : Char) (n : Nat) :
    (invalidCharacter c n).message =
      "caractère invalide '".toList ++ c :: ("' (position ".toList ++
        (Text.decimal n ++ [')'])) := by
  change "caractère invalide '".toList ++ c :: "' (position ".toList ++ Text.decimal n ++ [')'] = _
  simp only [List.append_assoc, List.cons_append]

theorem message_unexpectedToken (c : Char) :
    (unexpectedToken c).message = "jeton inattendu: '".toList ++ c :: ['\''] := rfl

theorem message_inj {e f : Failure} (h : e.message = f.message) : e = f := by
  -- The two messages that name a character begin with letters of their own.
  have initial : e.message.head? = f.message.head? := congrArg List.head? h
  cases e with
  | invalidCharacter c m =>
    change some 'c' = _ at initial
    cases f with
    | invalidCharacter d n =>
      rw [message_invalidCharacter, message_invalidCharacter] at h
      obtain ⟨character, counted⟩ := List.cons.inj (List.append_cancel_left h)
      have digits := List.append_cancel_right (List.append_cancel_left counted)
      rw [character, Text.decimal_natCast_inj digits]
    | unexpectedToken d =>
      change some 'c' = some 'j' at initial
      contradiction
    | _ => exact absurd initial (by decide)
  | unexpectedToken c =>
    change some 'j' = _ at initial
    cases f with
    | unexpectedToken d =>
      rw [message_unexpectedToken, message_unexpectedToken] at h
      obtain ⟨character, -⟩ := List.cons.inj (List.append_cancel_left h)
      rw [character]
    | invalidCharacter d n =>
      change some 'j' = some 'c' at initial
      contradiction
    | _ => exact absurd initial (by decide)
  | _ =>
    cases f with
    | invalidCharacter d n =>
      change _ = some 'c' at initial
      exact absurd initial (by decide)
    | unexpectedToken d =>
      change _ = some 'j' at initial
      exact absurd initial (by decide)
    | _ =>
      revert h
      decide

end Failure

namespace Calculation

theorem warning_inj {s t : Text} {e f : Failure} (h : warning s e = warning t f) :
    s = t ∧ e = f := by
  have texts := congrArg Record.text h
  simp only [warning, List.append_assoc] at texts
  obtain ⟨rfl, after⟩ := Text.quoted_append_inj (List.append_cancel_left texts)
  exact ⟨rfl, Failure.message_inj (List.append_cancel_left after)⟩

end Calculation

end IntegerCalculator
