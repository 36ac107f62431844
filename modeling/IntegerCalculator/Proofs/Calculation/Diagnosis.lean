import IntegerCalculator.Proofs.Calculation.Verdict

/-! When each result is returned. Refused characters, unmatched brackets and missing
structure are each reported for one reason only; an overflow may come from a
numeral or from the arithmetic, and a numeral too large is reported first. -/

namespace IntegerCalculator.Calculation

open Alphabet (Clean FirstRefused)
open IntegerCalculator.Bracket (Balanced)
open Token (Oversized)

def Shapeless (s : Text) : Prop := ∃ ts, Token.ofText s = .ok ts ∧ ∀ t, ¬ Sentence .sum ts t

theorem not_clean_of_firstRefused {s : Text} {position : Nat} {c : Char}
    (h : FirstRefused s position c) : ¬ Clean s := by
  intro clean
  exact clean c (List.mem_of_getElem? h.stands) h.refused

theorem not_shapeless_of_sentence {s : Text} {ts : List Token} {t : Tree}
    (tokens : Token.ofText s = .ok ts) (sentence : Sentence .sum ts t) : ¬ Shapeless s := by
  rintro ⟨us, same, none_derived⟩
  have equal : ts = us := Except.ok.inj (tokens.symm.trans same)
  rw [equal] at sentence
  exact none_derived t sentence

inductive Cause (s : Text) : Failure → Prop where
  | refused {position : Nat} {c : Char} :
      FirstRefused s position c → Cause s (.invalidCharacter c position)
  | unmatched : Clean s → ¬ Balanced s → Cause s .unmatchedBracket
  | oversized : Clean s → Balanced s → Oversized s → Cause s .overflow
  | shapeless : Clean s → Balanced s → ¬ Oversized s → Shapeless s → Cause s .malformedExpression
  | arithmetic {e : Failure} :
      e = .divisionByZero ∨ e = .negativeExponent ∨ e = .overflow →
      Clean s → Balanced s → ¬ Oversized s → ¬ Shapeless s → Cause s e

theorem cause_of_value {s : Text} {e : Failure} (h : value s = .error e) : Cause s e := by
  have found := verdict s
  rw [h] at found
  generalize outcome : Except.error e = r at found
  cases found with
  | refused first =>
    obtain rfl := Except.error.inj outcome
    exact .refused first
  | unmatched clean unmatched =>
    obtain rfl := Except.error.inj outcome
    exact .unmatched clean unmatched
  | oversized clean balanced large =>
    obtain rfl := Except.error.inj outcome
    exact .oversized clean balanced large
  | malformed clean balanced small tokens none_derived =>
    obtain rfl := Except.error.inj outcome
    exact .shapeless clean balanced small ⟨_, tokens, none_derived⟩
  | computed clean balanced small tokens sentence =>
    have fault := Tree.fault_of_value outcome.symm
    exact .arithmetic fault clean balanced small (not_shapeless_of_sentence tokens sentence)

theorem value_eq_invalidCharacter_iff (s : Text) (c : Char) (position : Nat) :
    value s = .error (.invalidCharacter c position) ↔ FirstRefused s position c := by
  constructor
  · intro h
    cases cause_of_value h with
    | refused first => exact first
    | arithmetic fault => simp at fault
  · exact fun first => value_of_check_error (check_of_firstRefused first)

theorem value_eq_unmatchedBracket_iff (s : Text) :
    value s = .error .unmatchedBracket ↔ Clean s ∧ ¬ Balanced s := by
  constructor
  · intro h
    cases cause_of_value h with
    | unmatched clean unmatched => exact ⟨clean, unmatched⟩
    | arithmetic fault => simp at fault
  · exact fun ⟨clean, unmatched⟩ => value_of_check_error (check_of_unmatched clean unmatched)

theorem value_of_oversized {s : Text} (clean : Clean s) (balanced : Balanced s)
    (large : Oversized s) : value s = .error .overflow :=
  value_of_ofText_error (check_of_balanced clean balanced) (Token.ofText_of_oversized clean large)

theorem value_eq_malformedExpression_iff (s : Text) :
    value s = .error .malformedExpression ↔
      Clean s ∧ Balanced s ∧ ¬ Oversized s ∧ Shapeless s := by
  constructor
  · intro h
    cases cause_of_value h with
    | shapeless clean balanced small shapeless => exact ⟨clean, balanced, small, shapeless⟩
    | arithmetic fault => simp at fault
  · rintro ⟨clean, balanced, -, ts, tokens, none_derived⟩
    have passed := check_of_balanced clean balanced
    rw [value_of_tokens passed tokens, malformed_of_balanced balanced tokens none_derived]
    rfl

theorem value_of_not_shapeless {s : Text} (clean : Clean s) (balanced : Balanced s)
    (small : ¬ Oversized s) (shaped : ¬ Shapeless s) :
    (∃ n, value s = .ok n) ∨ value s = .error .divisionByZero ∨
      value s = .error .negativeExponent ∨ value s = .error .overflow := by
  cases computed : value s with
  | ok n => exact .inl ⟨n, rfl⟩
  | error e =>
    cases cause_of_value computed with
    | refused first => exact absurd clean (not_clean_of_firstRefused first)
    | unmatched _ unmatched => exact absurd balanced unmatched
    | oversized _ _ large => exact absurd large small
    | shapeless _ _ _ shapeless => exact absurd shapeless shaped
    | arithmetic fault => simpa using fault

theorem value_ne_unexpectedToken (s : Text) (c : Char) :
    value s ≠ .error (.unexpectedToken c) := by
  intro h
  cases cause_of_value h with
  | arithmetic fault => simp at fault

theorem value_of_blank {s : Text} (blank : ∀ c ∈ s, Text.isBlank c = true) :
    value s = .error .malformedExpression := by
  have clean : Clean s := by
    intro c hc refused
    have visible : Text.isBlank c = false := refused.1
    rw [blank c hc] at visible
    contradiction
  have passed := check_of_balanced clean (Bracket.balanced_of_blank blank)
  rw [value_of_tokens passed (Token.ofText_of_blank blank)]
  rfl

/-- Every text belongs to the first of the five cases that holds of it, and each
failure to its own. -/
theorem value_classified (s : Text) :
    (∀ c position,
      value s = .error (.invalidCharacter c position) ↔ FirstRefused s position c) ∧
    (value s = .error .unmatchedBracket ↔ Clean s ∧ ¬ Balanced s) ∧
    (Clean s → Balanced s → Oversized s → value s = .error .overflow) ∧
    (value s = .error .malformedExpression ↔
      Clean s ∧ Balanced s ∧ ¬ Oversized s ∧ Shapeless s) ∧
    ((∀ c ∈ s, Text.isBlank c = true) → value s = .error .malformedExpression) ∧
    (Clean s → Balanced s → ¬ Oversized s → ¬ Shapeless s →
      (∃ n, value s = .ok n) ∨ value s = .error .divisionByZero ∨
        value s = .error .negativeExponent ∨ value s = .error .overflow) ∧
    ∀ c, value s ≠ .error (.unexpectedToken c) :=
  ⟨value_eq_invalidCharacter_iff s, value_eq_unmatchedBracket_iff s, value_of_oversized,
    value_eq_malformedExpression_iff s, value_of_blank, value_of_not_shapeless,
    value_ne_unexpectedToken s⟩

example : value "(1+x".toList = .error (.invalidCharacter 'x' 3) := by decide +kernel

example : value "9223372036854775808+".toList = .error .overflow := by decide +kernel

end IntegerCalculator.Calculation
