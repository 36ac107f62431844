import IntegerCalculator.Text

/-! An expression as it is typed: which characters it may be made of, whether its
brackets match, and the lexemes it is cut into. Blanks are none of its
characters: they are passed over, and counted, when the first refused character
is looked for. The test of the brackets reads the text once with the number of
brackets still open; the relation beside it says what a matched text is,
without a count. A lexeme is a maximal run of ASCII digits, or any other
character by itself. A blank is kept as a lexeme of its own, because two runs
of digits with a blank between them are two numbers. -/

namespace IntegerCalculator

namespace Alphabet

def characters : Text := "0123456789+-*/()^".toList

def permits (c : Char) : Bool := characters.contains c

def permitsAll (s : Text) : Bool := s.all permits

def firstRefused? : Text → Option (Nat × Char)
  | [] => none
  | c :: s =>
      if Text.isBlank c || permits c then (firstRefused? s).map fun r => (r.1 + 1, r.2)
      else some (0, c)

theorem firstRefused?_eq_none_iff (s : Text) :
    firstRefused? s = none ↔ permitsAll (Text.withoutBlanks s) = true := by
  induction s with
  | nil => simp [firstRefused?, permitsAll]
  | cons c s ih =>
    by_cases hb : Text.isBlank c <;> by_cases hp : permits c <;>
      simp_all [firstRefused?, permitsAll, Text.withoutBlanks]

end Alphabet

namespace Bracket

/-- Whether the text closes exactly the `depth` brackets that are open before it. -/
def closes : (depth : Nat) → Text → Bool
  | depth, [] => depth == 0
  | depth, '(' :: s => closes (depth + 1) s
  | 0, ')' :: _ => false
  | depth + 1, ')' :: s => closes depth s
  | depth, _ :: s => closes depth s

def balanced (s : Text) : Bool := closes 0 s

def isBracket (c : Char) : Bool := c == '(' || c == ')'

inductive Balanced : Text → Prop where
  | empty : Balanced []
  | other {c : Char} {s : Text} : isBracket c = false → Balanced s → Balanced (c :: s)
  | pair {s t : Text} : Balanced s → Balanced t → Balanced ('(' :: s ++ ')' :: t)

end Bracket

inductive Lexeme where
  | blank
  | numeral (digits : Text)
  | mark (character : Char)
  deriving DecidableEq, Repr

namespace Lexeme

def attach (c : Char) (rest : List Lexeme) : List Lexeme :=
  if Text.isBlank c then blank :: rest
  else if c.isDigit then
    match rest with
    | numeral digits :: rest => numeral (c :: digits) :: rest
    | rest => numeral [c] :: rest
  else mark c :: rest

def ofText (s : Text) : List Lexeme := s.foldr attach []

@[simp] theorem ofText_nil : ofText [] = [] := rfl

@[simp] theorem ofText_cons (c : Char) (s : Text) : ofText (c :: s) = attach c (ofText s) := rfl

theorem attach_ne_nil (c : Char) (rest : List Lexeme) : attach c rest ≠ [] := by
  unfold attach
  split
  · simp
  · split
    · split <;> simp
    · simp

theorem attach_append (c : Char) (rest more : List Lexeme) (h : rest ≠ []) :
    attach c (rest ++ more) = attach c rest ++ more := by
  obtain ⟨l, rest, rfl⟩ := List.exists_cons_of_ne_nil h
  by_cases hb : Text.isBlank c
  · simp [attach, hb]
  · by_cases hd : c.isDigit
    · cases l <;> simp [attach, hb, hd]
    · simp [attach, hb, hd]

/-- A digit stands on either side of the cut between two texts. -/
def DigitsMeet (s t : Text) : Prop :=
  ∃ c d, s.getLast? = some c ∧ c.isDigit = true ∧ t.head? = some d ∧ d.isDigit = true

theorem head_isDigit {s digits : Text} {rest : List Lexeme}
    (h : ofText s = numeral digits :: rest) : ∃ d, s.head? = some d ∧ d.isDigit = true := by
  cases s with
  | nil => simp at h
  | cons c s =>
    by_cases hd : c.isDigit
    · exact ⟨c, rfl, hd⟩
    · by_cases hb : Text.isBlank c <;> simp [attach, hb, hd] at h

theorem ofText_append {s t : Text} (h : ¬ DigitsMeet s t) :
    ofText (s ++ t) = ofText s ++ ofText t := by
  induction s with
  | nil => rfl
  | cons c s ih =>
    rw [List.cons_append, ofText_cons, ofText_cons]
    by_cases hs : s = []
    · subst hs
      simp only [List.nil_append, ofText_nil]
      by_cases hb : Text.isBlank c
      · simp [attach, hb]
      · by_cases hd : c.isDigit
        · have apart : ∀ digits rest, ofText t ≠ numeral digits :: rest := fun digits rest ht =>
            have ⟨d, head, digit⟩ := head_isDigit ht
            h ⟨c, d, rfl, hd, head, digit⟩
          simp [attach, hb, hd]
        · simp [attach, hb, hd]
    · have notNil : ofText s ≠ [] := by
        obtain ⟨d, s, rfl⟩ := List.exists_cons_of_ne_nil hs
        exact attach_ne_nil d _
      rw [ih, attach_append c _ _ notNil]
      rintro ⟨c', d, last, rest⟩
      exact h ⟨c', d, by rw [List.getLast?_cons, last]; rfl, rest⟩

end Lexeme

end IntegerCalculator
