import IntegerCalculator.Lexeme
import IntegerCalculator.Proofs.Alphabet
import Mathlib.Data.List.DropRight
import Mathlib.Data.List.TakeWhile

/-! The lexemes of a text. Its numerals are the runs of digits that no further digit
touches, and its marks are characters of the text that are neither digits nor
blanks; so a clean text has only marks that are operators or brackets. -/

namespace IntegerCalculator.Lexeme

/-- A run of digits that cannot be extended within the text. -/
def DigitRun (s digits : Text) : Prop :=
  digits ≠ [] ∧ (∀ c ∈ digits, c.isDigit = true) ∧
    ∃ before after, s = before ++ digits ++ after ∧
      ¬ DigitsMeet before digits ∧ ¬ DigitsMeet digits after

theorem isBlank_of_isDigit {c : Char} (h : c.isDigit = true) : Text.isBlank c = false := by
  rw [Char.isDigit_iff_toNat] at h
  have low : 48 ≤ c.toNat := h.1
  have high : c.toNat ≤ 57 := h.2
  simp only [Text.isBlank, Text.inRanges, Text.blankRanges, List.any_cons, List.any_nil,
    Bool.or_false, Bool.or_eq_false_iff, Bool.and_eq_false_iff, decide_eq_false_iff_not]
  omega

theorem not_isDigit_of_isBlank {c : Char} (h : Text.isBlank c = true) : c.isDigit = false := by
  cases digit : c.isDigit with
  | false => rfl
  | true =>
    rw [isBlank_of_isDigit digit] at h
    contradiction

theorem attach_of_blank {c : Char} (h : Text.isBlank c = true) (rest : List Lexeme) :
    attach c rest = blank :: rest := if_pos h

theorem attach_of_mark {c : Char} (hb : Text.isBlank c = false) (hd : c.isDigit = false)
    (rest : List Lexeme) : attach c rest = mark c :: rest := by
  simp [attach, hb, hd]

theorem attach_of_digit_numeral {c : Char} (h : c.isDigit = true) (digits : Text)
    (rest : List Lexeme) : attach c (numeral digits :: rest) = numeral (c :: digits) :: rest := by
  simp [attach, isBlank_of_isDigit h, h]

theorem attach_of_digit {c : Char} (h : c.isDigit = true) {rest : List Lexeme}
    (apart : ∀ digits more, rest ≠ numeral digits :: more) :
    attach c rest = numeral [c] :: rest := by
  simp [attach, isBlank_of_isDigit h, h]

theorem not_digitsMeet_nil_left (t : Text) : ¬ DigitsMeet [] t := by
  rintro ⟨c, d, last, -⟩
  contradiction

theorem not_digitsMeet_of_last {s : Text} (h : ∀ c, s.getLast? = some c → c.isDigit = false)
    (t : Text) : ¬ DigitsMeet s t := by
  rintro ⟨c, d, last, digit, -⟩
  rw [h c last] at digit
  contradiction

theorem not_digitsMeet_of_head {t : Text} (h : ∀ c, t.head? = some c → c.isDigit = false)
    (s : Text) : ¬ DigitsMeet s t := by
  rintro ⟨c, d, -, -, first, digit⟩
  rw [h d first] at digit
  contradiction

theorem digitsMeet_append_left {t : Text} (ht : t ≠ []) (s r : Text) :
    DigitsMeet (s ++ t) r ↔ DigitsMeet t r := by
  simp [DigitsMeet, ht]

theorem digitsMeet_append_right {t : Text} (ht : t ≠ []) (s r : Text) :
    DigitsMeet s (t ++ r) ↔ DigitsMeet s t := by
  simp [DigitsMeet, ht]

theorem ofText_digits {digits : Text} (nonempty : digits ≠ [])
    (all : ∀ c ∈ digits, c.isDigit = true) : ofText digits = [numeral digits] := by
  induction digits with
  | nil => contradiction
  | cons c rest ih =>
    have digit := all c List.mem_cons_self
    by_cases last : rest = []
    · rw [last, ofText_cons, ofText_nil, attach_of_digit digit (by simp)]
    · rw [ofText_cons, ih last fun d hd => all d (List.mem_cons_of_mem c hd),
        attach_of_digit_numeral digit]

theorem DigitRun.append_left {s t digits : Text} (h : DigitRun t digits)
    (apart : ¬ DigitsMeet s t) : DigitRun (s ++ t) digits := by
  obtain ⟨nonempty, all, before, after, rfl, left, right⟩ := h
  refine ⟨nonempty, all, s ++ before, after, by simp, ?_, right⟩
  cases before with
  | nil =>
    rw [List.nil_append, digitsMeet_append_right nonempty] at apart
    rwa [List.append_nil]
  | cons c before => rwa [digitsMeet_append_left (by simp)]

theorem not_digitsMeet_dropWhile (s t : Text) : ¬ DigitsMeet s (t.dropWhile Char.isDigit) := by
  apply not_digitsMeet_of_head
  intro c head
  have stops := List.head?_dropWhile_not Char.isDigit t
  rw [head] at stops
  exact stops

theorem digitRun_takeWhile {s : Text} (h : s.takeWhile Char.isDigit ≠ []) :
    DigitRun s (s.takeWhile Char.isDigit) :=
  ⟨h, fun _ => List.mem_takeWhile_imp, [], s.dropWhile Char.isDigit,
    by simp, not_digitsMeet_nil_left _, not_digitsMeet_dropWhile _ _⟩

theorem not_digitsMeet_rdropWhile (s t : Text) : ¬ DigitsMeet (s.rdropWhile Char.isDigit) t := by
  apply not_digitsMeet_of_last
  intro c last
  have nonempty : s.rdropWhile Char.isDigit ≠ [] := by
    intro empty
    simp [empty] at last
  rw [List.getLast?_eq_some_getLast nonempty] at last
  rw [← Option.some.inj last]
  simpa using List.rdropWhile_last_not Char.isDigit s nonempty

theorem exists_digits_of_digitsMeet {s t : Text} (h : DigitsMeet s t) :
    ∃ before left right after, s = before ++ left ∧ t = right ++ after ∧
      left ≠ [] ∧ right ≠ [] ∧ (∀ c ∈ left ++ right, c.isDigit = true) ∧
      ¬ DigitsMeet before left ∧ ¬ DigitsMeet right after := by
  obtain ⟨c, d, last, digit, head, digit'⟩ := h
  refine ⟨s.rdropWhile Char.isDigit, s.rtakeWhile Char.isDigit, t.takeWhile Char.isDigit,
    t.dropWhile Char.isDigit, List.rdropWhile_append_rtakeWhile.symm,
    List.takeWhile_append_dropWhile.symm, ?_, ?_, ?_, not_digitsMeet_rdropWhile s _,
    not_digitsMeet_dropWhile _ t⟩
  · obtain ⟨s, rfl⟩ := List.getLast?_eq_some_iff.1 last
    simp [List.rtakeWhile_concat_pos, digit]
  · obtain ⟨t, rfl⟩ := List.head?_eq_some_iff.1 head
    simp [digit']
  · intro x hx
    rcases List.mem_append.1 hx with hx | hx
    · exact List.mem_rtakeWhile_imp hx
    · exact List.mem_takeWhile_imp hx

theorem digitRun_of_mem {s digits : Text} (h : numeral digits ∈ ofText s) :
    DigitRun s digits := by
  -- The text is cut behind its first run of digits, or behind its first character.
  match s with
  | [] => simp at h
  | c :: s =>
    cases digit : c.isDigit with
    | true =>
      have nonempty : (c :: s).takeWhile Char.isDigit ≠ [] := by simp [digit]
      have apart := not_digitsMeet_dropWhile ((c :: s).takeWhile Char.isDigit) (c :: s)
      have shorter : ((c :: s).dropWhile Char.isDigit).length ≤ s.length := by
        rw [List.dropWhile_cons_of_pos digit]
        exact List.length_dropWhile_le ..
      have whole := List.takeWhile_append_dropWhile (p := Char.isDigit) (l := c :: s)
      rw [← whole, ofText_append apart, ofText_digits nonempty fun _ => List.mem_takeWhile_imp] at h
      rcases List.mem_cons.1 h with first | later
      · rw [Lexeme.numeral.inj first]
        exact digitRun_takeWhile nonempty
      · have run := (digitRun_of_mem later).append_left apart
        rwa [whole] at run
    | false =>
      have apart : ¬ DigitsMeet [c] s := not_digitsMeet_of_last (by simp [digit]) s
      have later : numeral digits ∈ ofText s := by
        cases hb : Text.isBlank c with
        | true => simpa [attach_of_blank hb] using h
        | false => simpa [attach_of_mark hb digit] using h
      exact (digitRun_of_mem later).append_left apart
termination_by s.length
decreasing_by
  · exact Nat.lt_succ_self s.length
  · exact Nat.lt_succ_of_le shorter

theorem numeral_mem_iff (s digits : Text) : numeral digits ∈ ofText s ↔ DigitRun s digits := by
  constructor
  · exact digitRun_of_mem
  · rintro ⟨nonempty, all, before, after, rfl, left, right⟩
    rw [ofText_append (by rwa [digitsMeet_append_left nonempty]), ofText_append left,
      ofText_digits nonempty all]
    simp

theorem mem_of_mark_mem {s : Text} {c : Char} (h : mark c ∈ ofText s) :
    c ∈ s ∧ Text.isBlank c = false ∧ c.isDigit = false := by
  induction s with
  | nil => simp at h
  | cons d s ih =>
    have later (hs : mark c ∈ ofText s) :
        c ∈ d :: s ∧ Text.isBlank c = false ∧ c.isDigit = false :=
      ⟨List.mem_cons_of_mem d (ih hs).1, (ih hs).2⟩
    rw [ofText_cons] at h
    cases hb : Text.isBlank d with
    | true =>
      rw [attach_of_blank hb] at h
      exact later (by simpa using h)
    | false =>
      cases hd : d.isDigit with
      | false =>
        rw [attach_of_mark hb hd] at h
        rcases List.mem_cons.1 h with first | hs
        · obtain rfl := Lexeme.mark.inj first
          exact ⟨List.mem_cons_self, hb, hd⟩
        · exact later hs
      | true =>
        -- A digit joins the numeral behind it or begins one, and the marks stay.
        apply later
        cases cut : ofText s with
        | nil => simp [cut, attach_of_digit hd] at h
        | cons l rest =>
          cases l with
          | numeral digits =>
            rw [cut, attach_of_digit_numeral hd] at h
            simpa using h
          | blank | mark =>
            rw [cut, attach_of_digit hd (by simp)] at h
            simpa using h

theorem mark_mem_iff (s : Text) (c : Char) :
    mark c ∈ ofText s ↔ c ∈ s ∧ Text.isBlank c = false ∧ c.isDigit = false := by
  constructor
  · exact mem_of_mark_mem
  · rintro ⟨member, notBlank, notDigit⟩
    obtain ⟨before, after, rfl⟩ := List.append_of_mem member
    have apart : ¬ DigitsMeet before (c :: after) :=
      not_digitsMeet_of_head (by simp [notDigit]) before
    rw [ofText_append apart, ofText_cons, attach_of_mark notBlank notDigit]
    simp

end IntegerCalculator.Lexeme
