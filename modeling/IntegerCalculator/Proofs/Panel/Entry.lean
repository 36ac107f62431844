import IntegerCalculator.Panel
import IntegerCalculator.Proofs.Token

/-! The entry as the keys lay it out: spaces stand around the operators, and are taken
away again with the operator. So a space always touches an operator and never parts a
number, and the entry reads as the bare characters of the keys. -/

namespace IntegerCalculator

theorem Key.character_mem (k : Key) : k.character ∈ Alphabet.characters := by
  cases k with
  | digit d => revert d; decide
  | operator o => cases o <;> decide
  | opening => decide
  | closing => decide

namespace Entry

open Alphabet (characters)
open Text (withoutBlanks)

/-- Texts in which every space touches an operator, and the last one follows it. -/
inductive Laid : Text → Prop where
  | empty : Laid []
  | joined {s : Text} {c : Char} : Laid s → c ∈ characters → Laid (s ++ [c])
  | apart {s : Text} {o : Operator} : Laid s → Laid (s ++ [' '] ++ [o.symbol])
  | trailing {s : Text} {o : Operator} : Laid (s ++ [o.symbol]) → Laid (s ++ [o.symbol] ++ [' '])

theorem symbol_mem (o : Operator) : o.symbol ∈ characters := Key.character_mem (.operator o)

theorem ne_space_of_mem {c : Char} (h : c ∈ characters) : c ≠ ' ' := by
  rintro rfl
  have visible : Text.isBlank ' ' = false := Alphabet.isBlank_of_mem h
  contradiction

@[simp] theorem dropSpaces_space (s : Text) : dropSpaces (s ++ [' ']) = dropSpaces s :=
  Text.dropTrailing_concat _ s ' '

theorem dropSpaces_of_ne_space {c : Char} (h : c ≠ ' ') (s : Text) :
    dropSpaces (s ++ [c]) = s ++ [c] := by
  rw [dropSpaces, Text.dropTrailing_concat, if_neg (by simpa using h)]

theorem dropSpaces_of_mem {c : Char} (h : c ∈ characters) (s : Text) :
    dropSpaces (s ++ [c]) = s ++ [c] := dropSpaces_of_ne_space (ne_space_of_mem h) s

theorem deleteLast_space (s : Text) : deleteLast (s ++ [' ']) = deleteLast s := by
  rw [deleteLast, dropSpaces_space, deleteLast]

theorem deleteLast_of_mem {c : Char} (h : c ∈ characters) (s : Text) :
    deleteLast (s ++ [c]) = dropSpaces s := by
  rw [deleteLast, dropSpaces_of_mem h, List.dropLast_concat]

@[simp] theorem withoutBlanks_space (s : Text) : withoutBlanks (s ++ [' ']) = withoutBlanks s := by
  rw [Text.withoutBlanks_append]
  exact List.append_nil _

theorem withoutBlanks_of_mem {c : Char} (h : c ∈ characters) (s : Text) :
    withoutBlanks (s ++ [c]) = withoutBlanks s ++ [c] := by
  rw [Text.withoutBlanks_append]
  simp [withoutBlanks, Alphabet.isBlank_of_mem h]

theorem eq_of_dropSpaces {α : Type} {f : Text → α} (space : ∀ s, f (s ++ [' ']) = f s)
    (s : Text) : f (dropSpaces s) = f s := by
  induction s using List.reverseRecOn with
  | nil => rfl
  | append_singleton s c ih =>
    by_cases last : c = ' '
    · rw [last, dropSpaces_space, space, ih]
    · rw [dropSpaces_of_ne_space last]

theorem withoutBlanks_dropSpaces (s : Text) : withoutBlanks (dropSpaces s) = withoutBlanks s :=
  eq_of_dropSpaces withoutBlanks_space s

theorem withoutBlanks_insert (s : Text) (k : Key) :
    withoutBlanks (insert s k) = withoutBlanks s ++ [k.character] := by
  cases k with
  | digit d => exact withoutBlanks_of_mem (Key.character_mem (.digit d)) s
  | opening => exact withoutBlanks_of_mem (Key.character_mem .opening) s
  | closing =>
    rw [insert, withoutBlanks_of_mem (by decide), withoutBlanks_dropSpaces]
    rfl
  | operator o =>
    have spaced : withoutBlanks [o.symbol, ' '] = [o.symbol] := by cases o <;> rfl
    simp only [insert, Text.withoutBlanks_append, spaced, withoutBlanks_dropSpaces]
    split
    · rw [Text.withoutBlanks_nil, List.append_nil]; rfl
    · exact congrArg (· ++ [o.symbol]) (List.append_nil _)

namespace Laid

theorem dropSpaces {s : Text} (h : Laid s) : Laid (dropSpaces s) := by
  cases h with
  | empty => exact .empty
  | joined h permitted => rw [dropSpaces_of_mem permitted]; exact .joined h permitted
  | apart h => rw [dropSpaces_of_mem (symbol_mem _)]; exact .apart h
  | trailing h => rwa [dropSpaces_space, dropSpaces_of_mem (symbol_mem _)]

theorem insert {s : Text} (h : Laid s) (k : Key) : Laid (insert s k) := by
  cases k with
  | digit d => exact .joined h (Key.character_mem (.digit d))
  | opening => exact .joined h (Key.character_mem .opening)
  | closing => exact .joined h.dropSpaces (Key.character_mem .closing)
  | operator o =>
    have kept := h.dropSpaces
    cases same : Entry.dropSpaces s with
    | nil =>
      simp only [Entry.insert, same]
      exact .trailing (.joined .empty (symbol_mem o))
    | cons c rest =>
      rw [same] at kept
      have laid := Laid.trailing (kept.apart (o := o))
      simpa [Entry.insert, same] using laid

theorem deleteLast {s : Text} (h : Laid s) :
    Laid (deleteLast s) ∧ withoutBlanks (Entry.deleteLast s) = (withoutBlanks s).dropLast := by
  induction h with
  | empty => exact ⟨.empty, rfl⟩
  | joined h permitted =>
    rw [deleteLast_of_mem permitted, withoutBlanks_dropSpaces, withoutBlanks_of_mem permitted,
      List.dropLast_concat]
    exact ⟨h.dropSpaces, rfl⟩
  | apart h =>
    rw [deleteLast_of_mem (symbol_mem _), dropSpaces_space, withoutBlanks_dropSpaces,
      withoutBlanks_of_mem (symbol_mem _), withoutBlanks_space, List.dropLast_concat]
    exact ⟨h.dropSpaces, rfl⟩
  | trailing h ih => rwa [deleteLast_space, withoutBlanks_space]

theorem clean {s : Text} (h : Laid s) : Alphabet.Clean s := by
  have space : ¬ Alphabet.Refused ' ' := Alphabet.not_refused_of_isBlank rfl
  induction h with
  | empty => exact Alphabet.clean_nil
  | joined _ permitted ih =>
    exact (Alphabet.clean_concat_iff _ _).2 ⟨ih, Alphabet.not_refused_of_mem permitted⟩
  | apart _ ih =>
    rw [Alphabet.clean_concat_iff, Alphabet.clean_concat_iff]
    exact ⟨⟨ih, space⟩, Alphabet.not_refused_of_mem (symbol_mem _)⟩
  | trailing _ ih => exact (Alphabet.clean_concat_iff _ _).2 ⟨ih, space⟩

theorem ofText_append {s : Text} (h : Laid s) (t : Text) :
    Token.ofText (s ++ t) = Token.ofText (withoutBlanks s ++ t) := by
  induction h generalizing t with
  | empty => rfl
  | @joined s c _ permitted ih =>
    rw [withoutBlanks_of_mem permitted, List.append_assoc, List.append_assoc]
    exact ih ([c] ++ t)
  | @apart s o _ ih =>
    have whole := ih []
    rw [List.append_nil, List.append_nil] at whole
    have left : ¬ Lexeme.DigitsMeet (withoutBlanks s) ([o.symbol] ++ t) :=
      Lexeme.not_digitsMeet_of_head (by simp [o.symbol_isDigit]) _
    rw [withoutBlanks_of_mem (symbol_mem o), withoutBlanks_space, List.append_assoc,
      List.append_assoc, List.append_assoc, Token.ofText_append left, ← whole]
    exact Token.ofText_insert_blank rfl s _
  | @trailing s o _ ih =>
    have whole := ih []
    rw [List.append_nil, List.append_nil] at whole
    have right : ¬ Lexeme.DigitsMeet (withoutBlanks (s ++ [o.symbol])) t := by
      rw [withoutBlanks_of_mem (symbol_mem o)]
      exact Lexeme.not_digitsMeet_of_last (by simp [o.symbol_isDigit]) t
    rw [withoutBlanks_space, List.append_assoc, Token.ofText_append right, ← whole]
    exact Token.ofText_insert_blank rfl (s ++ [o.symbol]) t

theorem ofText_withoutBlanks {s : Text} (h : Laid s) :
    Token.ofText s = Token.ofText (withoutBlanks s) := by
  have whole := h.ofText_append []
  rwa [List.append_nil, List.append_nil] at whole

end Laid

end Entry

end IntegerCalculator
