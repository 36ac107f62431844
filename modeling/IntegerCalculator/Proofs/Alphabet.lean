import IntegerCalculator.Lexeme

/-! Refused characters, said without a search: a text is clean when it has none, and
the one that is reported has only accepted characters before it. -/

namespace IntegerCalculator.Alphabet

def Refused (c : Char) : Prop := Text.isBlank c = false ∧ c ∉ characters

instance (c : Char) : Decidable (Refused c) := inferInstanceAs (Decidable (_ ∧ _))

def Clean (s : Text) : Prop := ∀ c ∈ s, ¬ Refused c

instance (s : Text) : Decidable (Clean s) := List.decidableBAll _ s

structure FirstRefused (s : Text) (position : Nat) (c : Char) : Prop where
  stands : s[position]? = some c
  refused : Refused c
  first : Clean (s.take position)

theorem refused_iff (c : Char) :
    Refused c ↔ (Text.isBlank c || permits c) = false := by
  simp [Refused, permits]

theorem not_refused_iff (c : Char) : ¬ Refused c ↔ Text.isBlank c = true ∨ c ∈ characters := by
  cases blank : Text.isBlank c <;> simp [Refused, blank]

theorem clean_nil : Clean [] := by simp [Clean]

theorem clean_cons_iff (c : Char) (s : Text) : Clean (c :: s) ↔ ¬ Refused c ∧ Clean s := by
  simp [Clean]

theorem clean_append_iff (s t : Text) : Clean (s ++ t) ↔ Clean s ∧ Clean t := by
  simp only [Clean, List.mem_append]
  exact ⟨fun h => ⟨fun c hc => h c (.inl hc), fun c hc => h c (.inr hc)⟩,
    fun h c hc => hc.elim (h.1 c) (h.2 c)⟩

theorem clean_concat_iff (s : Text) (c : Char) : Clean (s ++ [c]) ↔ Clean s ∧ ¬ Refused c := by
  rw [clean_append_iff, clean_cons_iff]
  simp [clean_nil]

theorem clean_bracketed {s : Text} (clean : Clean s) : Clean ('(' :: s ++ [')']) := by
  have opened : ¬ Refused '(' := by decide
  have closed : Clean [')'] := by decide
  rw [List.cons_append, clean_cons_iff, clean_append_iff]
  exact ⟨opened, clean, closed⟩

theorem isBlank_of_mem {c : Char} (h : c ∈ characters) : Text.isBlank c = false := by
  have visible : characters.all (fun c => !Text.isBlank c) = true := by decide
  simpa using List.all_eq_true.1 visible c h

theorem not_refused_of_mem {c : Char} (h : c ∈ characters) : ¬ Refused c :=
  fun refused => refused.2 h

theorem mem_of_isDigit {c : Char} (h : c.isDigit = true) : c ∈ characters := by
  have digits : ∀ k < 58, 48 ≤ k → Char.ofNat k ∈ characters := by decide
  rw [Char.isDigit_iff_toNat] at h
  have low : 48 ≤ c.toNat := h.1
  have high : c.toNat ≤ 57 := h.2
  have permitted := digits c.toNat (by omega) low
  rwa [Char.ofNat_toNat] at permitted

theorem not_refused_of_isDigit {c : Char} (h : c.isDigit = true) : ¬ Refused c :=
  not_refused_of_mem (mem_of_isDigit h)

theorem not_isDigit_of_refused {c : Char} (h : Refused c) : c.isDigit = false := by
  cases digit : c.isDigit with
  | false => rfl
  | true => exact absurd h (not_refused_of_isDigit digit)

theorem not_refused_of_isBlank {c : Char} (h : Text.isBlank c = true) : ¬ Refused c := by
  intro refused
  rw [refused.1] at h
  contradiction

theorem firstRefused?_cons_of_refused {c : Char} (h : Refused c) (s : Text) :
    firstRefused? (c :: s) = some (0, c) := by
  rw [firstRefused?, (refused_iff c).1 h]
  rfl

theorem firstRefused?_cons_of_not_refused {c : Char} (h : ¬ Refused c) (s : Text) :
    firstRefused? (c :: s) = (firstRefused? s).map fun r => (r.1 + 1, r.2) := by
  rw [refused_iff, Bool.not_eq_false] at h
  rw [firstRefused?, h]
  rfl

/-- An accepted character that is put in moves what is refused behind it by one place. -/
theorem firstRefused?_insert {w : Char} (h : ¬ Refused w) (s t : Text) :
    firstRefused? (s ++ w :: t) =
      (firstRefused? (s ++ t)).map fun r => (if s.length ≤ r.1 then r.1 + 1 else r.1, r.2) := by
  induction s with
  | nil => simp [firstRefused?_cons_of_not_refused h]
  | cons c s ih =>
    by_cases hc : Refused c
    · simp [firstRefused?_cons_of_refused hc]
    · rw [List.cons_append, List.cons_append, firstRefused?_cons_of_not_refused hc,
        firstRefused?_cons_of_not_refused hc, ih]
      cases firstRefused? (s ++ t) with
      | none => rfl
      | some r => by_cases behind : s.length ≤ r.1 <;> simp [behind]

theorem firstRefused?_eq_none_iff_clean (s : Text) : firstRefused? s = none ↔ Clean s := by
  induction s with
  | nil => simp [firstRefused?, clean_nil]
  | cons c s ih =>
    rw [clean_cons_iff]
    by_cases h : Refused c
    · simp [firstRefused?_cons_of_refused h, h]
    · simp [firstRefused?_cons_of_not_refused h, h, ih]

theorem firstRefused?_eq_some_iff (s : Text) (position : Nat) (c : Char) :
    firstRefused? s = some (position, c) ↔ FirstRefused s position c := by
  induction s generalizing position with
  | nil =>
    simp only [firstRefused?, reduceCtorEq, false_iff]
    exact fun h => by simpa using h.stands
  | cons d s ih =>
    by_cases h : Refused d
    · rw [firstRefused?_cons_of_refused h]
      constructor
      · intro found
        obtain ⟨rfl, rfl⟩ := Prod.mk.inj (Option.some.inj found)
        exact ⟨rfl, h, clean_nil⟩
      · intro found
        cases position with
        | zero => simpa using found.stands
        | succ position => exact absurd h ((clean_cons_iff _ _).1 found.first).1
    · rw [firstRefused?_cons_of_not_refused h]
      cases position with
      | zero =>
        simp only [Option.map_eq_some_iff, Prod.mk.injEq, Nat.succ_ne_zero, false_and, and_false,
          exists_false, false_iff]
        intro found
        obtain rfl := Option.some.inj found.stands
        exact h found.refused
      | succ position =>
        have shift : FirstRefused (d :: s) (position + 1) c ↔ FirstRefused s position c := by
          constructor
          · exact fun found =>
              ⟨found.stands, found.refused, ((clean_cons_iff _ _).1 found.first).2⟩
          · exact fun found =>
              ⟨found.stands, found.refused, (clean_cons_iff _ _).2 ⟨h, found.first⟩⟩
        rw [shift, ← ih position]
        simp

theorem firstRefused?_eq_some_iff_getElem? (s : Text) (position : Nat) (c : Char) :
    firstRefused? s = some (position, c) ↔
      s[position]? = some c ∧ Text.isBlank c = false ∧ c ∉ characters ∧
        ∀ d ∈ s.take position, Text.isBlank d = true ∨ d ∈ characters := by
  rw [firstRefused?_eq_some_iff]
  constructor
  · intro first
    exact ⟨first.stands, first.refused.1, first.refused.2,
      fun d hd => (not_refused_iff d).1 (first.first d hd)⟩
  · rintro ⟨stands, visible, outside, before⟩
    exact ⟨stands, ⟨visible, outside⟩, fun d hd => (not_refused_iff d).2 (before d hd)⟩

end IntegerCalculator.Alphabet
