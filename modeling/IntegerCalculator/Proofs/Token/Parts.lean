import IntegerCalculator.Proofs.Token

/-! A text read in parts. Wherever no number is cut, the tokens of the whole are those of
the parts, and the first part that fails decides the failure; a run of digits is one
number, exact at any length. A text that is cut before its first refused character fails
at that character, unless a number before it is too large already. -/

namespace IntegerCalculator

open Alphabet (Clean FirstRefused Refused firstRefused?)
open Lexeme (DigitsMeet)

namespace Token

theorem ofText_digits_of_large {digits : Text} (nonempty : digits ≠ [])
    (all : ∀ c ∈ digits, c.isDigit = true)
    (large : 9223372036854775807 < Text.digitsValue digits) :
    ofText digits = .error .overflow := by
  rw [ofText_digits nonempty all, literal_of_large large]
  rfl

theorem ofText_leading_zeros {digits : Text} (nonempty : digits ≠ [])
    (all : ∀ c ∈ digits, c.isDigit = true) (k : Nat) :
    ofText (List.replicate k '0' ++ digits) = ofText digits := by
  have longer : List.replicate k '0' ++ digits ≠ [] := by simp [nonempty]
  have digit : ∀ c ∈ List.replicate k '0' ++ digits, c.isDigit = true := by
    intro c hc
    rcases List.mem_append.1 hc with zero | later
    · rw [List.eq_of_mem_replicate zero]
      rfl
    · exact all c later
  rw [ofText_digits longer digit, ofText_digits nonempty all, literal, literal,
    Text.digitsValue_replicate_append]

/-- Reading is exact on numbers and goes through a text part by part. -/
theorem ofText_exact_in_parts :
    (∀ s t, ¬ DigitsMeet s t →
      (∀ e, ofText s = .error e → ofText (s ++ t) = .error e) ∧
      (∀ ts e, ofText s = .ok ts → ofText t = .error e → ofText (s ++ t) = .error e) ∧
      (∀ ts us, ofText s = .ok ts → ofText t = .ok us → ofText (s ++ t) = .ok (ts ++ us))) ∧
    ∀ digits, digits ≠ [] → (∀ c ∈ digits, c.isDigit = true) →
      (Text.digitsValue digits ≤ 9223372036854775807 →
        ∃ n : Int64, n.toInt = Text.digitsValue digits ∧ ofText digits = .ok [.number n]) ∧
      (9223372036854775807 < Text.digitsValue digits → ofText digits = .error .overflow) ∧
      ∀ k, ofText (List.replicate k '0' ++ digits) = ofText digits := by
  refine ⟨fun s t apart => ⟨fun e failed => ?_, fun ts e read failed => ?_,
    fun ts us read read' => ?_⟩, fun digits nonempty all => ?_⟩
  · rw [ofText_append apart, failed]
    rfl
  · rw [ofText_append apart, read, failed]
    rfl
  · rw [ofText_append apart, read, read']
    rfl
  · exact ⟨ofText_digits_of_small nonempty all, ofText_digits_of_large nonempty all,
      ofText_leading_zeros nonempty all⟩

theorem ofText_exact_in_parts_of_product :
    ¬ DigitsMeet "007*(".toList "x".toList ∧
      ofText "007*(".toList = .ok [.number 7, .operator .times, .opening] ∧
      ofText "x".toList = .error (.unexpectedToken 'x') ∧
      ofText "007*(x".toList = .error (.unexpectedToken 'x') ∧
      ofText "000000000000000000009223372036854775807".toList =
        ofText "9223372036854775807".toList ∧
      ofText "9223372036854775808".toList = .error .overflow := by
  have apart : ¬ DigitsMeet "007*(".toList "x".toList :=
    Lexeme.not_digitsMeet_of_head (by simp) _
  have read : ofText "007*(".toList = .ok [.number 7, .operator .times, .opening] := by decide
  have unread : ofText "x".toList = .error (.unexpectedToken 'x') := by decide
  have largest := ofText_exact_in_parts.2 "9223372036854775807".toList (by decide) (by simp)
  have tooLarge := ofText_exact_in_parts.2 "9223372036854775808".toList (by decide) (by simp)
  exact ⟨apart, read, unread, (ofText_exact_in_parts.1 _ _ apart).2.1 _ _ read unread,
    largest.2.2 20, tooLarge.2.1 (by decide)⟩

theorem mem_characters_iff (c : Char) :
    c ∈ Alphabet.characters ↔ c.isDigit = true ∨ ∃ t, ofMark? c = some t := by
  constructor
  · intro permitted
    cases digit : c.isDigit with
    | true => exact .inl rfl
    | false => exact .inr (ofMark?_of_permitted permitted digit)
  · rintro (digit | ⟨t, mark⟩)
    · exact Alphabet.mem_of_isDigit digit
    · exact mem_characters_of_ofMark? mark

theorem ofText_of_clean {s : Text} (clean : Clean s) :
    (∃ ts, ofText s = .ok ts) ∨ ofText s = .error .overflow := by
  by_cases large : Oversized s
  · exact .inr (ofText_of_oversized clean large)
  · exact .inl (ofText_of_small clean large)

theorem ofText_of_refused {c : Char} (refused : Refused c) :
    ofText [c] = .error (.unexpectedToken c) := by
  rw [ofText, Lexeme.ofText_cons,
    Lexeme.attach_of_mark refused.1 (Alphabet.not_isDigit_of_refused refused)]
  exact ofLexemes_cons_error (ofLexeme_mark_of_refused refused) _

/-- What stands before the first refused character is read first, and that character
then ends the reading. -/
theorem ofText_of_firstRefused {s : Text} {position : Nat} {c : Char}
    (first : FirstRefused s position c) :
    ofText s = ofText (s.take position) >>= fun _ => .error (.unexpectedToken c) := by
  have rest : s.drop position = c :: s.drop (position + 1) := by
    rw [List.drop_eq_getElem?_toList_append, first.stands]
    rfl
  calc
    ofText s = ofText (s.take position ++ c :: s.drop (position + 1)) := by
      rw [← rest, List.take_append_drop]
    _ = ofText (s.take position) >>= fun _ => .error (.unexpectedToken c) := by
      rw [ofText_append_cons (Alphabet.not_isDigit_of_refused first.refused),
        ofText_of_refused first.refused]
      rfl

theorem ofText_eq_unexpectedToken_iff (s : Text) (c : Char) :
    ofText s = .error (.unexpectedToken c) ↔
      ∃ position, firstRefused? s = some (position, c) ∧
        ofText (s.take position) ≠ .error .overflow := by
  cases found : firstRefused? s with
  | none =>
    have clean := (Alphabet.firstRefused?_eq_none_iff_clean s).1 found
    rcases ofText_of_clean clean with ⟨ts, read⟩ | large
    · simp [read]
    · simp [large]
  | some r =>
    obtain ⟨position, d⟩ := r
    have first := (Alphabet.firstRefused?_eq_some_iff s position d).1 found
    rw [ofText_of_firstRefused first]
    rcases ofText_of_clean first.first with ⟨ts, read⟩ | large
    · simp [read, bind, Except.bind]
    · simp [large, bind, Except.bind]

/-- The alphabet, the marks that reading knows, and the search for a refused character
permit the same characters, and a text fails at the first that they do not permit. -/
theorem refused_characters_agree (s : Text) :
    (∀ c, c ∈ Alphabet.characters ↔ c.isDigit = true ∨ ∃ t, ofMark? c = some t) ∧
      (Alphabet.permitsAll (Text.withoutBlanks s) = true ↔ firstRefused? s = none) ∧
      (∀ position c, firstRefused? s = some (position, c) ↔
        s[position]? = some c ∧ Text.isBlank c = false ∧ c ∉ Alphabet.characters ∧
          ∀ d ∈ s.take position, Text.isBlank d = true ∨ d ∈ Alphabet.characters) ∧
      (∀ c, ofText s = .error (.unexpectedToken c) ↔
        ∃ position, firstRefused? s = some (position, c) ∧
          ofText (s.take position) ≠ .error .overflow) ∧
      (firstRefused? s = none → ∀ e, ofText s = .error e → e = .overflow) := by
  refine ⟨mem_characters_iff, (Alphabet.firstRefused?_eq_none_iff s).symm,
    Alphabet.firstRefused?_eq_some_iff_getElem? s, ofText_eq_unexpectedToken_iff s,
    fun none_refused e failed => ?_⟩
  have clean := (Alphabet.firstRefused?_eq_none_iff_clean s).1 none_refused
  rcases ofText_of_clean clean with ⟨ts, read⟩ | large
  · rw [read] at failed
    contradiction
  · rw [large] at failed
    exact (Except.error.inj failed).symm

/-- A number too large comes before a character that is refused behind it. -/
example : firstRefused? "9223372036854775808+x".toList = some (20, 'x') ∧
    ofText "9223372036854775808+x".toList = .error .overflow := by decide

end Token

end IntegerCalculator
