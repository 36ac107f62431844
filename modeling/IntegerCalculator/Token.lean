import IntegerCalculator.Arithmetic
import IntegerCalculator.Lexeme

/-! Tokens: numbers, operators and the two brackets. The same type serves for an
expression as typed and for its converted form. Tokens are shown with one
space between neighbours. In the text they are read from, blanks separate and
are otherwise ignored. A run of digits is one number, whatever its length, or
too large for 64 bits; every other character is an operator, a bracket, or
unexpected. The first fault from the left is the one reported. -/

namespace IntegerCalculator

inductive Token where
  | number (value : Int64)
  | operator (o : Operator)
  | opening
  | closing
  deriving DecidableEq, Repr

namespace Token

/-- Numbers and brackets rank below every operator. -/
def precedence : Token → Nat
  | operator o => o.precedence
  | _ => 0

def text : Token → Text
  | number n => Text.decimal n.toInt
  | operator o => [o.symbol]
  | opening => ['(']
  | closing => [')']

def render (ts : List Token) : Text := List.intercalate [' '] (ts.map text)

def beginsOperand : Token → Bool
  | number _ | opening => true
  | operator _ | closing => false

def endsOperand : Token → Bool
  | number _ | closing => true
  | operator _ | opening => false

def ofMark? (c : Char) : Option Token :=
  if c = '(' then some opening
  else if c = ')' then some closing
  else (Operator.ofSymbol? c).map operator

def literal (digits : Text) : Except Failure Token :=
  match Arithmetic.fit? (Text.digitsValue digits) with
  | some n => .ok (number n)
  | none => .error .overflow

def ofLexeme : Lexeme → Except Failure (List Token)
  | .blank => .ok []
  | .numeral digits => do return [← literal digits]
  | .mark c =>
      match ofMark? c with
      | some t => .ok [t]
      | none => .error (.unexpectedToken c)

def ofLexemes (ls : List Lexeme) : Except Failure (List Token) := do
  return (← ls.mapM ofLexeme).flatten

theorem ofLexemes_append (ls ms : List Lexeme) :
    ofLexemes (ls ++ ms) = do return (← ofLexemes ls) ++ (← ofLexemes ms) := by
  simp [ofLexemes]

def ofText (s : Text) : Except Failure (List Token) := ofLexemes (Lexeme.ofText s)

@[simp] theorem ofText_nil : ofText [] = .ok [] := rfl

theorem ofText_append {s t : Text} (h : ¬ Lexeme.DigitsMeet s t) :
    ofText (s ++ t) = do return (← ofText s) ++ (← ofText t) := by
  rw [ofText, Lexeme.ofText_append h, ofLexemes_append]
  rfl

end Token

end IntegerCalculator
