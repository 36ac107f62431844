import IntegerCalculator.Journal
import IntegerCalculator.Postfix

/-! A whole calculation. The text is checked for refused characters and for its
brackets, cut into tokens, converted and evaluated; the first stage that fails
decides. A solution keeps its tokens and their converted order as the steps
that led to the value. Each stage that succeeds is recorded, and a failure is
recorded with the text that caused it. -/

namespace IntegerCalculator

def title : Text := "Calculatrice entière".toList

structure Steps where
  tokens : Text := []
  converted : Text := []
  deriving DecidableEq, Repr

structure Solution where
  value : Int64
  steps : Steps
  deriving DecidableEq, Repr

namespace Calculation

/-- What is demanded of a text before it is read. The position of a refused
character counts blanks; brackets are matched without them. -/
def check (s : Text) : Except Failure Unit :=
  match Alphabet.firstRefused? s with
  | some (position, c) => .error (.invalidCharacter c position)
  | none =>
      if Bracket.balanced (Text.withoutBlanks s) then .ok () else .error .unmatchedBracket

def read (s : Text) : Except Failure (List Token) := do
  check s
  Token.ofText s

def note (label : String) (ts : List Token) : Record :=
  ⟨.debug, .calculation, label.toList ++ Token.render ts⟩

def attempt (s : Text) : Logged (Except Failure Solution) :=
  match read s with
  | .error e => pure (.error e)
  | .ok ts => do
    record (note "jetons: " ts)
    match Postfix.ofTokens ts with
    | .error e => return .error e
    | .ok us =>
      record (note "rpn: " us)
      return (Postfix.value us).map fun n => ⟨n, Token.render ts, Token.render us⟩

def solve (s : Text) : Logged (Except Failure Solution) := do
  let result ← attempt s
  if let .error e := result then
    record ⟨.warn, .calculation,
      "échec d’évaluation de ".toList ++ Text.quoted s ++ ": ".toList ++ e.message⟩
  return result

def result (s : Text) : Except Failure Solution := (solve s).value

theorem result_eq_attempt (s : Text) : result s = (attempt s).value := by
  change (solve s).value = _
  unfold solve
  simp only [Logged.bind_value]
  cases (attempt s).value <;> rfl

def value (s : Text) : Except Failure Int64 := (result s).map Solution.value

theorem value_eq (s : Text) : value s = read s >>= Postfix.ofTokens >>= Postfix.value := by
  rw [value, result_eq_attempt, attempt]
  cases read s with
  | error e => rfl
  | ok ts =>
    change _ = Postfix.ofTokens ts >>= Postfix.value
    simp only [Logged.bind_value]
    cases Postfix.ofTokens ts with
    | error e => rfl
    | ok us =>
      change _ = Postfix.value us
      simp only [Logged.bind_value, Logged.pure_value]
      cases Postfix.value us <;> rfl

end Calculation

end IntegerCalculator
