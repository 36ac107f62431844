import IntegerCalculator.Proofs.Token

/-! The blanks at both ends of a text. Leaving them out changes neither its tokens nor
its other characters; but what is refused stands nearer to the front by the length of
the margin before the first character that is not blank. -/

namespace IntegerCalculator

namespace Text

def margin (s : Text) : Nat := (s.takeWhile isBlank).length

theorem margin_eq_zero_iff (s : Text) :
    margin s = 0 ↔ ∀ c, s.head? = some c → isBlank c = false := by
  cases s with
  | nil => simp [margin]
  | cons c s => cases h : isBlank c <;> simp [margin, h]

/-- A text lies between blanks that are left out. -/
theorem exists_margins (s : Text) :
    ∃ before after, s = before ++ trim s ++ after ∧ before.length = margin s ∧
      (∀ c ∈ before, isBlank c = true) ∧ ∀ c ∈ after, isBlank c = true := by
  refine ⟨s.takeWhile isBlank, (s.dropWhile isBlank).rtakeWhile isBlank, ?_, rfl,
    fun c hc => List.mem_takeWhile_imp hc, fun c hc => List.mem_rtakeWhile_imp hc⟩
  have kept : trim s ++ (s.dropWhile isBlank).rtakeWhile isBlank = s.dropWhile isBlank :=
    List.rdropWhile_append_rtakeWhile
  rw [List.append_assoc, kept, List.takeWhile_append_dropWhile]

theorem eq_of_trim {α : Type} {f : Text → α}
    (front : ∀ w s, isBlank w = true → f (w :: s) = f s)
    (back : ∀ w s, isBlank w = true → f (s ++ [w]) = f s) (s : Text) : f (trim s) = f s := by
  have fronts (before t : Text) (blank : ∀ c ∈ before, isBlank c = true) :
      f (before ++ t) = f t := by
    induction before with
    | nil => rfl
    | cons w before ih =>
      rw [List.cons_append, front w _ (blank w List.mem_cons_self)]
      exact ih fun c hc => blank c (List.mem_cons_of_mem w hc)
  have backs (t after : Text) (blank : ∀ c ∈ after, isBlank c = true) :
      f (t ++ after) = f t := by
    induction after generalizing t with
    | nil => rw [List.append_nil]
    | cons w after ih =>
      rw [List.append_cons, ih _ fun c hc => blank c (List.mem_cons_of_mem w hc)]
      exact back w t (blank w List.mem_cons_self)
  obtain ⟨before, after, parts, -, blank, blank'⟩ := exists_margins s
  rw [parts, backs _ after blank', fronts before _ blank, ← parts]

theorem withoutBlanks_trim (s : Text) : withoutBlanks (trim s) = withoutBlanks s :=
  eq_of_trim (fun w s blank => by simp [withoutBlanks, blank])
    (fun w s blank => by simp [withoutBlanks, blank]) s

theorem trim_eq_nil_iff (s : Text) : trim s = [] ↔ withoutBlanks s = [] := by
  constructor
  · intro empty
    rw [← withoutBlanks_trim, empty]
    rfl
  · intro empty
    have blank (c : Char) (hc : c ∈ s) : isBlank c = true := by
      simpa using List.filter_eq_nil_iff.1 empty c hc
    rw [trim, List.dropWhile_eq_nil_iff.2 blank]
    rfl

end Text

namespace Token

theorem ofText_trim (s : Text) : ofText (Text.trim s) = ofText s := by
  apply Text.eq_of_trim
  · intro w s blank
    have skipped := ofText_insert_blank blank [] s
    rw [List.nil_append] at skipped
    rw [skipped]
    cases ofText s <;> rfl
  · exact fun w s blank => ofText_concat_blank blank s

end Token

namespace Alphabet

theorem clean_of_blank {s : Text} (blank : ∀ c ∈ s, Text.isBlank c = true) : Clean s :=
  fun c hc => not_refused_of_isBlank (blank c hc)

theorem firstRefused?_append_left {s : Text} (clean : Clean s) (t : Text) :
    firstRefused? (s ++ t) = (firstRefused? t).map fun r => (s.length + r.1, r.2) := by
  induction s with
  | nil => simp
  | cons c s ih =>
    obtain ⟨accepted, rest⟩ := (clean_cons_iff c s).1 clean
    rw [List.cons_append, firstRefused?_cons_of_not_refused accepted, ih rest, Option.map_map]
    congr 1
    funext r
    simp only [Function.comp_apply, List.length_cons, Prod.mk.injEq, and_true]
    omega

theorem firstRefused?_append_right {t : Text} (clean : Clean t) (s : Text) :
    firstRefused? (s ++ t) = firstRefused? s := by
  induction s with
  | nil => rw [List.nil_append, (firstRefused?_eq_none_iff_clean t).2 clean]; rfl
  | cons c s ih =>
    by_cases refused : Refused c
    · rw [List.cons_append, firstRefused?_cons_of_refused refused,
        firstRefused?_cons_of_refused refused]
    · rw [List.cons_append, firstRefused?_cons_of_not_refused refused,
        firstRefused?_cons_of_not_refused refused, ih]

theorem firstRefused?_eq_trim (s : Text) :
    firstRefused? s = (firstRefused? (Text.trim s)).map fun r => (Text.margin s + r.1, r.2) := by
  obtain ⟨before, after, parts, length, blank, blank'⟩ := Text.exists_margins s
  have whole := firstRefused?_append_right (clean_of_blank blank') (before ++ Text.trim s)
  rw [← parts] at whole
  rw [whole, firstRefused?_append_left (clean_of_blank blank), length]

theorem FirstRefused.trim {s : Text} {position : Nat} {c : Char}
    (first : FirstRefused s position c) :
    Text.margin s ≤ position ∧ FirstRefused (Text.trim s) (position - Text.margin s) c := by
  have found := (firstRefused?_eq_some_iff s position c).2 first
  rw [firstRefused?_eq_trim] at found
  obtain ⟨⟨within, d⟩, foundWithin, moved⟩ := Option.map_eq_some_iff.1 found
  obtain ⟨rfl, rfl⟩ := Prod.mk.inj moved
  rw [Nat.add_sub_cancel_left]
  exact ⟨Nat.le_add_right _ _, (firstRefused?_eq_some_iff _ _ _).1 foundWithin⟩

theorem clean_trim_iff (s : Text) : Clean (Text.trim s) ↔ Clean s := by
  rw [← firstRefused?_eq_none_iff_clean, ← firstRefused?_eq_none_iff_clean,
    firstRefused?_eq_trim s, Option.map_eq_none_iff]

theorem clean_trim {s : Text} (clean : Clean s) : Clean (Text.trim s) := (clean_trim_iff s).2 clean

end Alphabet

end IntegerCalculator
