import IntegerCalculator.Proofs.Panel.Entry
import IntegerCalculator.Proofs.Panel.Step

/-! A key and the key that takes it back, on any text that may have been typed before. The
spaces that a key puts around its character or takes away before it make no difference to
the tokens, and deleting leaves nothing behind of a key; only the spaces at the end of the
entry are lost on the way. -/

namespace IntegerCalculator

namespace Entry

theorem dropSpaces_spec (s : Text) :
    (∃ n, s = dropSpaces s ++ List.replicate n ' ') ∧ (dropSpaces s).getLast? ≠ some ' ' := by
  induction s using List.reverseRecOn with
  | nil => exact ⟨⟨0, rfl⟩, by simp [dropSpaces]⟩
  | append_singleton s c ih =>
    by_cases last : c = ' '
    · obtain ⟨⟨n, parts⟩, stops⟩ := ih
      rw [last, dropSpaces_space]
      refine ⟨⟨n + 1, ?_⟩, stops⟩
      rw [List.replicate_succ', ← List.append_assoc, ← parts]
    · rw [dropSpaces_of_ne_space last]
      exact ⟨⟨0, by simp⟩, by simpa using last⟩

theorem dropSpaces_dropSpaces (s : Text) : dropSpaces (dropSpaces s) = dropSpaces s :=
  eq_of_dropSpaces dropSpaces_space s

theorem ofText_dropSpaces (s : Text) : Token.ofText (dropSpaces s) = Token.ofText s :=
  eq_of_dropSpaces (Token.ofText_concat_blank rfl) s

/-- Spaces before a character that is no digit make no difference to the tokens. -/
theorem ofText_concat_of_dropSpaces {c : Char} (notDigit : c.isDigit = false) {s t : Text}
    (same : dropSpaces s = dropSpaces t) :
    Token.ofText (s ++ [c]) = Token.ofText (t ++ [c]) := by
  have before : Token.ofText s = Token.ofText t := by
    rw [← ofText_dropSpaces, same, ofText_dropSpaces]
  rw [Token.ofText_append_cons notDigit, Token.ofText_append_cons notDigit, before]

theorem exists_insert_operator (s : Text) (o : Operator) :
    ∃ front, insert s (.operator o) = front ++ [o.symbol] ++ [' '] ∧
      dropSpaces front = dropSpaces s := by
  have kept := dropSpaces_dropSpaces s
  cases empty : (dropSpaces s).isEmpty with
  | true => exact ⟨dropSpaces s, by simp [insert, empty], kept⟩
  | false =>
    refine ⟨dropSpaces s ++ [' '], by simp [insert, empty], ?_⟩
    rw [dropSpaces_space, kept]

theorem deleteLast_insert (s : Text) (k : Key) : deleteLast (insert s k) = dropSpaces s := by
  cases k with
  | digit d => exact deleteLast_of_mem (Key.character_mem (.digit d)) s
  | opening => exact deleteLast_of_mem (Key.character_mem .opening) s
  | closing =>
    exact (deleteLast_of_mem (Key.character_mem .closing) _).trans (dropSpaces_dropSpaces s)
  | operator o =>
    obtain ⟨front, inserted, kept⟩ := exists_insert_operator s o
    rw [inserted, deleteLast_space, deleteLast_of_mem (symbol_mem o), kept]

theorem ofText_insert (s : Text) (k : Key) :
    Token.ofText (insert s k) = Token.ofText (s ++ [k.character]) := by
  cases k with
  | digit | opening => rfl
  | closing => exact ofText_concat_of_dropSpaces rfl (dropSpaces_dropSpaces s)
  | operator o =>
    obtain ⟨front, inserted, kept⟩ := exists_insert_operator s o
    rw [inserted, Token.ofText_concat_blank rfl]
    exact ofText_concat_of_dropSpaces o.symbol_isDigit kept

end Entry

namespace Panel

/-- Whatever the entry was, a key that is deleted again leaves it without the spaces at its
end, which the tokens do not show; before that the tokens are those of the entry with the
bare character of the key behind it. -/
theorem delete_takes_back_key (p : Panel) (k : Key) :
    let pressed := (p.perform (.click (.key k))).value
    let undone := (pressed.perform (.click .delete)).value
    (∃ n, p.entry = undone.entry ++ List.replicate n ' ') ∧
      undone.entry.getLast? ≠ some ' ' ∧
      Token.ofText undone.entry = Token.ofText p.entry ∧
      Token.ofText pressed.entry = Token.ofText (p.entry ++ [k.character]) := by
  intro pressed undone
  have inserted : pressed.entry = Entry.insert p.entry k := entry_perform p (.click (.key k))
  have restored : undone.entry = Entry.dropSpaces p.entry := by
    calc
      undone.entry = Entry.deleteLast pressed.entry := entry_perform pressed (.click .delete)
      _ = Entry.dropSpaces p.entry := by rw [inserted, Entry.deleteLast_insert]
  obtain ⟨spaces, stops⟩ := Entry.dropSpaces_spec p.entry
  rw [restored, inserted]
  exact ⟨spaces, stops, Entry.ofText_dropSpaces p.entry, Entry.ofText_insert p.entry k⟩

end Panel

end IntegerCalculator
