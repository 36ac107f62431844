import IntegerCalculator.Lexeme

/-! The count of open brackets and what it means. Following the count through a
text one character at a time makes it compose over concatenation; a text is
matched when the count comes back to zero, and those texts are the ones that
are built from pairs. Only the brackets of a text count, so blanks may go. -/

namespace IntegerCalculator.Bracket

/-- The number of open brackets after one more character, unless that closes a
bracket when none is open. -/
def pass (depth : Nat) (c : Char) : Option Nat :=
  if c = '(' then some (depth + 1)
  else if c = ')' then
    match depth with
    | 0 => none
    | outer + 1 => some outer
  else some depth

def depthAfter? (depth : Nat) (s : Text) : Option Nat := s.foldlM pass depth

@[simp] theorem pass_opening (depth : Nat) : pass depth '(' = some (depth + 1) := rfl

@[simp] theorem pass_closing_zero : pass 0 ')' = none := rfl

@[simp] theorem pass_closing_succ (depth : Nat) : pass (depth + 1) ')' = some depth := rfl

theorem pass_other {c : Char} (h : isBracket c = false) (depth : Nat) :
    pass depth c = some depth := by
  simp only [isBracket, Bool.or_eq_false_iff, beq_eq_false_iff_ne] at h
  simp [pass, h.1, h.2]

@[simp] theorem depthAfter?_nil (depth : Nat) : depthAfter? depth [] = some depth := rfl

theorem depthAfter?_cons (depth : Nat) (c : Char) (s : Text) :
    depthAfter? depth (c :: s) = (pass depth c).bind (depthAfter? · s) := rfl

theorem depthAfter?_append (depth : Nat) (s t : Text) :
    depthAfter? depth (s ++ t) = (depthAfter? depth s).bind (depthAfter? · t) :=
  List.foldlM_append

theorem isBracket_cases (c : Char) : c = '(' ∨ c = ')' ∨ isBracket c = false := by
  cases h : isBracket c with
  | false => exact .inr (.inr rfl)
  | true =>
    simp only [isBracket, Bool.or_eq_true, beq_iff_eq] at h
    exact h.elim .inl fun h => .inr (.inl h)

theorem closes_iff_depthAfter? (depth : Nat) (s : Text) :
    closes depth s = true ↔ depthAfter? depth s = some 0 := by
  induction s generalizing depth with
  | nil => simp [closes]
  | cons c s ih =>
    rcases isBracket_cases c with rfl | rfl | other
    · rw [closes, ih, depthAfter?_cons, pass_opening, Option.bind_some]
    · cases depth with
      | zero => simp [closes, depthAfter?_cons]
      | succ outer => rw [closes, ih, depthAfter?_cons, pass_closing_succ, Option.bind_some]
    · rw [depthAfter?_cons, pass_other other, Option.bind_some, ← ih]
      simp only [isBracket, Bool.or_eq_false_iff, beq_eq_false_iff_ne] at other
      rw [closes]
      · exact other.1
      · exact fun _ h => other.2 h
      · exact fun _ _ h => other.2 h

theorem depthAfter?_filter (depth : Nat) (s : Text) :
    depthAfter? depth (s.filter isBracket) = depthAfter? depth s := by
  induction s generalizing depth with
  | nil => rfl
  | cons c s ih =>
    cases h : isBracket c with
    | false => rw [List.filter_cons_of_neg (by simp [h]), depthAfter?_cons, pass_other h, ih,
        Option.bind_some]
    | true =>
      rw [List.filter_cons_of_pos h, depthAfter?_cons, depthAfter?_cons]
      exact congrArg _ (funext ih)

theorem depthAfter?_of_no_bracket {s : Text} (h : ∀ c ∈ s, isBracket c = false) (depth : Nat) :
    depthAfter? depth s = some depth := by
  rw [← depthAfter?_filter, List.filter_eq_nil_iff.2 (by simpa using h), depthAfter?_nil]

/-- What closes `depth` open brackets: a matched text before each closing bracket
and one after the last. -/
inductive Closing : Nat → Text → Prop where
  | last {s : Text} : Balanced s → Closing 0 s
  | next {depth : Nat} {s t : Text} :
      Balanced s → Closing depth t → Closing (depth + 1) (s ++ ')' :: t)

theorem Closing.other {depth : Nat} {c : Char} {s : Text} (hc : isBracket c = false)
    (h : Closing depth s) : Closing depth (c :: s) := by
  cases h with
  | last balanced => exact .last (.other hc balanced)
  | next balanced rest => exact .next (.other hc balanced) rest

theorem Closing.opening {depth : Nat} {s : Text} (h : Closing (depth + 1) s) :
    Closing depth ('(' :: s) := by
  cases h with
  | @next _ s t inner rest =>
    cases rest with
    | last balanced => exact .last (.pair inner balanced)
    | @next _ t u balanced rest =>
      have paired := Closing.next (.pair inner balanced) rest
      simpa using paired

theorem closing_of_depthAfter? {depth : Nat} {s : Text} (h : depthAfter? depth s = some 0) :
    Closing depth s := by
  induction s generalizing depth with
  | nil =>
    obtain rfl := Option.some.inj h
    exact .last .empty
  | cons c s ih =>
    rw [depthAfter?_cons] at h
    rcases isBracket_cases c with rfl | rfl | other
    · exact (ih h).opening
    · cases depth with
      | zero => contradiction
      | succ outer => exact .next .empty (ih h)
    · rw [pass_other other, Option.bind_some] at h
      exact (ih h).other other

theorem Balanced.depthAfter? {s : Text} (h : Balanced s) (depth : Nat) :
    depthAfter? depth s = some depth := by
  induction h generalizing depth with
  | empty => rfl
  | other hc _ ih => rw [depthAfter?_cons, pass_other hc, Option.bind_some, ih]
  | pair _ _ ihs iht =>
    rw [List.cons_append, depthAfter?_cons, pass_opening, Option.bind_some, depthAfter?_append,
      ihs, Option.bind_some, depthAfter?_cons, pass_closing_succ, Option.bind_some, iht]

theorem balanced_eq_true_iff (s : Text) : balanced s = true ↔ Balanced s := by
  rw [balanced, closes_iff_depthAfter?]
  constructor
  · intro h
    cases closing_of_depthAfter? h with
    | last balanced => exact balanced
  · exact fun h => h.depthAfter? 0

instance (s : Text) : Decidable (Balanced s) := decidable_of_iff _ (balanced_eq_true_iff s)

theorem balanced_around {m : Text} (h : ∀ depth, depthAfter? depth m = some depth) (s t : Text) :
    balanced (s ++ m ++ t) = balanced (s ++ t) := by
  rw [Bool.eq_iff_iff, balanced, balanced, closes_iff_depthAfter?, closes_iff_depthAfter?,
    depthAfter?_append, depthAfter?_append, depthAfter?_append]
  cases depthAfter? 0 s with
  | none => rfl
  | some depth => rw [Option.bind_some, h, Option.bind_some]

theorem isBlank_of_isBracket {c : Char} (h : isBracket c = true) : Text.isBlank c = false := by
  rcases isBracket_cases c with rfl | rfl | other
  · rfl
  · rfl
  · rw [h] at other
    contradiction

theorem not_isBracket_of_isDigit {c : Char} (h : c.isDigit = true) :
    isBracket c = false := by
  rcases isBracket_cases c with rfl | rfl | other
  · exact absurd h (by decide)
  · exact absurd h (by decide)
  · exact other

theorem not_isBracket_of_isBlank {c : Char} (h : Text.isBlank c = true) :
    isBracket c = false := by
  cases bracket : isBracket c with
  | false => rfl
  | true =>
    rw [isBlank_of_isBracket bracket] at h
    contradiction

theorem balanced_of_blank {s : Text} (blank : ∀ c ∈ s, Text.isBlank c = true) : Balanced s := by
  induction s with
  | nil => exact .empty
  | cons c s ih =>
    have other := not_isBracket_of_isBlank (blank c List.mem_cons_self)
    exact .other other (ih fun d hd => blank d (List.mem_cons_of_mem c hd))

theorem filter_withoutBlanks (s : Text) :
    (Text.withoutBlanks s).filter isBracket = s.filter isBracket := by
  rw [Text.withoutBlanks, List.filter_filter]
  apply List.filter_congr
  intro c _
  cases h : isBracket c with
  | false => rfl
  | true => simp [isBlank_of_isBracket h]

theorem balanced_filter (s : Text) : balanced (s.filter isBracket) = balanced s := by
  rw [Bool.eq_iff_iff, balanced, balanced, closes_iff_depthAfter?, closes_iff_depthAfter?,
    depthAfter?_filter]

/-- The count of open brackets accepts the texts that are built from pairs, and nothing but
their brackets matters to it. -/
theorem balanced_accepts_pairs (s : Text) :
    (balanced s = true ↔ Balanced s) ∧ balanced (s.filter isBracket) = balanced s :=
  ⟨balanced_eq_true_iff s, balanced_filter s⟩

/-- As many brackets may be closed as are opened, and still not match. -/
example : Balanced "((1+2)*(3-(4/5)))".toList ∧ ¬ Balanced "())(()".toList := by decide

theorem balanced_withoutBlanks (s : Text) : balanced (Text.withoutBlanks s) = balanced s := by
  rw [← balanced_filter, filter_withoutBlanks, balanced_filter]

end IntegerCalculator.Bracket
