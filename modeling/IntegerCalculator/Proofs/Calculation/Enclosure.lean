import IntegerCalculator.Proofs.Calculation.Guard
import IntegerCalculator.Proofs.Conversion.Nested
import Mathlib.Logic.Function.Iterate

/-! Brackets around a whole text. When its own brackets match they may be put there or
left out, once or many times: the conversion and the value stay the same, and so does
the failure of a text that has neither. -/

namespace IntegerCalculator

open Alphabet (Clean)
open IntegerCalculator.Bracket (Balanced)

def Text.enclose (s : Text) : Text := '(' :: s ++ [')']

theorem Bracket.Balanced.enclose {s : Text} (h : Balanced s) : Balanced (Text.enclose s) :=
  .pair h .empty

theorem Bracket.Balanced.iterate_enclose {s : Text} (h : Balanced s) (n : Nat) :
    Balanced (Text.enclose^[n] s) :=
  Function.Iterate.rec Balanced h (fun _ balanced => balanced.enclose) n

theorem Alphabet.Clean.iterate_enclose {s : Text} (h : Clean s) (n : Nat) :
    Clean (Text.enclose^[n] s) :=
  Function.Iterate.rec Clean h (fun _ clean => clean_bracketed clean) n

namespace Postfix

theorem ofText_enclose {s : Text} (balanced : Balanced s) :
    ofText (Text.enclose s) = ofText s := by
  rw [ofText, ofText, Text.enclose, Token.ofText_bracketed_eq]
  cases tokens : Token.ofText s with
  | error e => rfl
  | ok ts =>
    have matched : Bracket.depthAfter? 0 (ts.filterMap Token.bracket?) = some 0 := by
      rw [Token.filterMap_bracket? tokens, Bracket.depthAfter?_filter]
      exact balanced.depthAfter? 0
    exact ofTokens_enclosed matched

theorem ofText_iterate_enclose {s : Text} (balanced : Balanced s) (n : Nat) :
    ofText (Text.enclose^[n] s) = ofText s := by
  induction n with
  | zero => rfl
  | succ n ih =>
    rw [Function.iterate_succ_apply', ofText_enclose (balanced.iterate_enclose n), ih]

end Postfix

namespace Calculation

theorem value_of_same_conversion {s t : Text} (passed : check s = .ok ())
    (passed' : check t = .ok ()) (same : Postfix.ofText s = Postfix.ofText t) :
    value s = value t := by
  rw [value_of_checked passed, value_of_checked passed', unchecked, unchecked, same]

theorem value_iterate_enclose {s : Text} (clean : Clean s) (balanced : Balanced s) (n : Nat) :
    value (Text.enclose^[n] s) = value s :=
  value_of_same_conversion
    (check_of_balanced (clean.iterate_enclose n) (balanced.iterate_enclose n))
    (check_of_balanced clean balanced) (Postfix.ofText_iterate_enclose balanced n)

/-- Redundant brackets are not seen, whatever the text between them comes to. -/
theorem redundant_brackets_invisible {s : Text} (matched : Bracket.balanced s = true) :
    Postfix.ofText ('(' :: s ++ [')']) = Postfix.ofText s ∧
      (Clean s → value ('(' :: s ++ [')']) = value s) ∧
      ∀ n, Postfix.ofText (Text.enclose^[n] s) = Postfix.ofText s ∧
        (Clean s → value (Text.enclose^[n] s) = value s) := by
  have balanced := (Bracket.balanced_eq_true_iff s).1 matched
  have converted := Postfix.ofText_iterate_enclose balanced
  have valued (n : Nat) (clean : Clean s) := value_iterate_enclose clean balanced n
  exact ⟨converted 1, valued 1, fun n => ⟨converted n, valued n⟩⟩

theorem redundant_brackets_invisible_malformed :
    Bracket.balanced "(2) 3 x".toList = true ∧
      Postfix.ofText "((2) 3 x)".toList = .error (.unexpectedToken 'x') ∧
      Postfix.ofText "(2) 3 x".toList = .error (.unexpectedToken 'x') ∧
      Bracket.balanced "2^(0-1)".toList = true ∧
      value "(((2^(0-1))))".toList = value "2^(0-1)".toList ∧
      value "2^(0-1)".toList = .error .negativeExponent := by
  have matched : Bracket.balanced "(2) 3 x".toList = true := by decide
  have matched' : Bracket.balanced "2^(0-1)".toList = true := by decide
  have unread : Postfix.ofText "(2) 3 x".toList = .error (.unexpectedToken 'x') := by decide
  have clean : Clean "2^(0-1)".toList := by decide
  exact ⟨matched, (redundant_brackets_invisible matched).1.trans unread, unread, matched',
    ((redundant_brackets_invisible matched').2.2 3).2 clean, by decide +kernel⟩

/-- Brackets that do not match among themselves may match those around them. -/
example : Postfix.ofText "1)+(2".toList = .error .unmatchedBracket ∧
    Postfix.ofText (Text.enclose "1)+(2".toList) =
      .ok [.number 1, .number 2, .operator .plus] := by decide

end Calculation

end IntegerCalculator
