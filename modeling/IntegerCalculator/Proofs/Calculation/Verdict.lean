import IntegerCalculator.Calculation
import IntegerCalculator.Proofs.Conversion.Bracket
import IntegerCalculator.Proofs.Conversion.Sentence
import IntegerCalculator.Proofs.TreeValue

/-! What a calculation comes to, for every text. The stages are tried in order, and
each failure belongs to one of them: after the checks no token is unexpected, after
reading no bracket is unmatched, and after conversion only arithmetic can fail. -/

namespace IntegerCalculator.Calculation

open Alphabet (Clean FirstRefused)
open IntegerCalculator.Bracket (Balanced)
open Token (Oversized)

theorem check_of_firstRefused {s : Text} {position : Nat} {c : Char}
    (h : FirstRefused s position c) : check s = .error (.invalidCharacter c position) := by
  rw [check, (Alphabet.firstRefused?_eq_some_iff s position c).2 h]

theorem check_of_clean {s : Text} (clean : Clean s) :
    check s = if Bracket.balanced s then .ok () else .error .unmatchedBracket := by
  rw [check, (Alphabet.firstRefused?_eq_none_iff_clean s).2 clean, Bracket.balanced_withoutBlanks]

theorem check_of_unmatched {s : Text} (clean : Clean s) (unmatched : ¬ Balanced s) :
    check s = .error .unmatchedBracket := by
  rw [← Bracket.balanced_eq_true_iff] at unmatched
  rw [check_of_clean clean, if_neg unmatched]

theorem check_of_balanced {s : Text} (clean : Clean s) (balanced : Balanced s) :
    check s = .ok () := by
  rw [check_of_clean clean, if_pos ((Bracket.balanced_eq_true_iff s).2 balanced)]

theorem check_eq_ok_iff (s : Text) : check s = .ok () ↔ Clean s ∧ Balanced s := by
  constructor
  · intro passed
    have clean : Clean s := by
      rw [← Alphabet.firstRefused?_eq_none_iff_clean]
      by_contra found
      obtain ⟨⟨position, c⟩, first⟩ := Option.ne_none_iff_exists'.1 found
      simp [check, first] at passed
    refine ⟨clean, ?_⟩
    by_contra unmatched
    rw [check_of_unmatched clean unmatched] at passed
    contradiction
  · exact fun h => check_of_balanced h.1 h.2

theorem read_of_check_error {s : Text} {e : Failure} (h : check s = .error e) :
    read s = .error e := by
  rw [read, h]
  rfl

theorem read_of_check {s : Text} (passed : check s = .ok ()) : read s = Token.ofText s := by
  rw [read, passed]
  rfl

theorem value_of_check_error {s : Text} {e : Failure} (h : check s = .error e) :
    value s = .error e := by
  rw [value_eq, read_of_check_error h]
  rfl

theorem value_of_check {s : Text} (passed : check s = .ok ()) :
    value s = Token.ofText s >>= Postfix.ofTokens >>= Postfix.value := by
  rw [value_eq, read_of_check passed]

theorem value_of_ofText_error {s : Text} {e : Failure} (passed : check s = .ok ())
    (h : Token.ofText s = .error e) : value s = .error e := by
  rw [value_of_check passed, h]
  rfl

theorem value_of_tokens {s : Text} {ts : List Token} (passed : check s = .ok ())
    (tokens : Token.ofText s = .ok ts) : value s = Postfix.ofTokens ts >>= Postfix.value := by
  rw [value_of_check passed, tokens]
  rfl

theorem value_of_sentence {s : Text} {ts : List Token} {t : Tree} (passed : check s = .ok ())
    (tokens : Token.ofText s = .ok ts) (sentence : Sentence .sum ts t) : value s = t.value := by
  rw [value_of_tokens passed tokens, Postfix.ofTokens_of_sentence sentence]
  exact Postfix.value_postorder t

theorem malformed_of_balanced {s : Text} {ts : List Token} (balanced : Balanced s)
    (tokens : Token.ofText s = .ok ts) (none_derived : ∀ t, ¬ Sentence .sum ts t) :
    Postfix.ofTokens ts = .error .malformedExpression := by
  cases converted : Postfix.ofTokens ts with
  | ok out =>
    obtain ⟨t, sentence, -⟩ := Postfix.exists_sentence_of_ofTokens converted
    exact absurd sentence (none_derived t)
  | error e =>
    rcases Postfix.error_of_ofTokens converted with rfl | ⟨-, unmatched⟩
    · rfl
    · rw [Token.filterMap_bracket? tokens, Bracket.depthAfter?_filter,
        balanced.depthAfter? 0] at unmatched
      contradiction

/-- The five ways a calculation can go, in the order in which they are tried. -/
inductive Verdict (s : Text) : Except Failure Int64 → Prop where
  | refused {position : Nat} {c : Char} :
      FirstRefused s position c → Verdict s (.error (.invalidCharacter c position))
  | unmatched : Clean s → ¬ Balanced s → Verdict s (.error .unmatchedBracket)
  | oversized : Clean s → Balanced s → Oversized s → Verdict s (.error .overflow)
  | malformed {ts : List Token} : Clean s → Balanced s → ¬ Oversized s →
      Token.ofText s = .ok ts → (∀ t, ¬ Sentence .sum ts t) →
      Verdict s (.error .malformedExpression)
  | computed {ts : List Token} {t : Tree} : Clean s → Balanced s → ¬ Oversized s →
      Token.ofText s = .ok ts → Sentence .sum ts t → Verdict s t.value

theorem verdict (s : Text) : Verdict s (value s) := by
  -- The cases are those of the calculation, in its order.
  cases first : Alphabet.firstRefused? s with
  | some r =>
    have refused := (Alphabet.firstRefused?_eq_some_iff s r.1 r.2).1 first
    rw [value_of_check_error (check_of_firstRefused refused)]
    exact .refused refused
  | none =>
    have clean := (Alphabet.firstRefused?_eq_none_iff_clean s).1 first
    by_cases balanced : Balanced s
    · have passed := check_of_balanced clean balanced
      by_cases large : Oversized s
      · rw [value_of_ofText_error passed (Token.ofText_of_oversized clean large)]
        exact .oversized clean balanced large
      · obtain ⟨ts, tokens⟩ := Token.ofText_of_small clean large
        by_cases derived : ∃ t, Sentence .sum ts t
        · obtain ⟨t, sentence⟩ := derived
          rw [value_of_sentence passed tokens sentence]
          exact .computed clean balanced large tokens sentence
        · have none_derived : ∀ t, ¬ Sentence .sum ts t := fun t h => derived ⟨t, h⟩
          rw [value_of_tokens passed tokens, malformed_of_balanced balanced tokens none_derived]
          exact .malformed clean balanced large tokens none_derived
    · rw [value_of_check_error (check_of_unmatched clean balanced)]
      exact .unmatched clean balanced

theorem exists_sentence_of_value {s : Text} {n : Int64} (h : value s = .ok n) :
    Clean s ∧ Balanced s ∧
      ∃ ts t, Token.ofText s = .ok ts ∧ Sentence .sum ts t ∧ t.value = .ok n := by
  have found := verdict s
  generalize value s = r at found h
  cases found with
  | refused | unmatched | oversized | malformed => contradiction
  | computed clean balanced _ tokens sentence =>
    exact ⟨clean, balanced, _, _, tokens, sentence, h⟩

/-- An expression has the exact value of its tree, if every subtree has one; otherwise
the first subtree in post-order that has none decides the fault. -/
theorem value_exact {s : Text} {ts : List Token} {t : Tree} (passed : check s = .ok ())
    (tokens : Token.ofText s = .ok ts) (sentence : Sentence .sum ts t) :
    (∀ n, value s = .ok n ↔ t.Sound ∧ n.toInt = t.exact) ∧
      (t.Sound → ∃ n, value s = .ok n) ∧
      (¬ t.Sound → ∃ e, t.firstFault? = some e ∧ value s = .error e) := by
  rw [value_of_sentence passed tokens sentence]
  have found := t.value_of_firstFault?
  refine ⟨fun n => ?_, fun sound => ?_, fun unsound => ?_⟩
  · rw [Tree.value_eq_ok_iff, Tree.firstFault?_eq_none_iff]
  · rw [(Tree.firstFault?_eq_none_iff t).2 sound] at found
    obtain ⟨n, computed, -⟩ := found
    exact ⟨n, computed⟩
  · rw [← Tree.firstFault?_eq_none_iff] at unsound
    obtain ⟨e, fault⟩ := Option.ne_none_iff_exists'.1 unsound
    exact ⟨e, fault, (Tree.value_eq_error_iff t e).2 fault⟩

theorem value_exact_of_quotient :
    check "7/2-3^2".toList = .ok () ∧
      Token.ofText "7/2-3^2".toList =
        .ok [.number 7, .operator .divide, .number 2, .operator .minus, .number 3,
          .operator .power, .number 2] ∧
      Sentence .sum
        [.number 7, .operator .divide, .number 2, .operator .minus, .number 3,
          .operator .power, .number 2]
        (.node .minus (.node .divide (.leaf 7) (.leaf 2)) (.node .power (.leaf 3) (.leaf 2))) ∧
      value "7/2-3^2".toList = .ok (-6) := by
  have passed : check "7/2-3^2".toList = .ok () := by decide
  have tokens : Token.ofText "7/2-3^2".toList =
      .ok [.number 7, .operator .divide, .number 2, .operator .minus, .number 3,
        .operator .power, .number 2] := by decide
  have quotient : Sentence .sum [.number 7, .operator .divide, .number 2]
      (.node .divide (.leaf 7) (.leaf 2)) :=
    .ofProduct (.product (.inr rfl) (.ofPower (.ofOperand (.number 7))) (.ofOperand (.number 2)))
  have square : Sentence .product [.number 3, .operator .power, .number 2]
      (.node .power (.leaf 3) (.leaf 2)) :=
    .ofPower (.power (.number 3) (.ofOperand (.number 2)))
  have sentence := Sentence.sum (.inr rfl) quotient square
  have exact := value_exact passed tokens sentence
  exact ⟨passed, tokens, sentence, (exact.1 (-6)).2 (by decide)⟩

end IntegerCalculator.Calculation
