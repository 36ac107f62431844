import IntegerCalculator.Text

/-! The five binary operators in table order, with the symbol that is typed for each,
the checked arithmetic they stand for, and the causes for which an expression has no
value. Precedence says which of two neighbouring operators binds tighter, and
associativity decides between equals: only powers group to the right.

Each operation on signed 64-bit integers computes in the unbounded integers and
answers nothing when the result does not fit. Powers are the exception: they square
and multiply, so that an exponent near the top of the range takes some sixty steps.

For each cause of failure there is a sentence that is shown. A refused character
is named as it was typed, with its position counted in characters from zero. -/

namespace IntegerCalculator

inductive Associativity where
  | left
  | right
  deriving DecidableEq, Repr

inductive Operator where
  | plus
  | minus
  | times
  | divide
  | power
  deriving DecidableEq, Repr

namespace Operator

def all : List Operator := [plus, minus, times, divide, power]

def symbol : Operator → Char
  | plus => '+'
  | minus => '-'
  | times => '*'
  | divide => '/'
  | power => '^'

theorem symbol_isDigit (o : Operator) : o.symbol.isDigit = false := by cases o <;> rfl

def precedence : Operator → Nat
  | plus | minus => 1
  | times | divide => 2
  | power => 3

def associativity : Operator → Associativity
  | power => .right
  | _ => .left

def index (o : Operator) : Nat := all.idxOf o

def ofSymbol? (c : Char) : Option Operator := all.find? fun o => o.symbol == c

theorem ofSymbol?_symbol (o : Operator) : ofSymbol? o.symbol = some o := by cases o <;> rfl

theorem ofSymbol?_eq_some_iff (c : Char) (o : Operator) :
    ofSymbol? c = some o ↔ o.symbol = c := by
  constructor
  · intro h
    simpa using List.find?_some h
  · rintro rfl
    exact ofSymbol?_symbol o

/-- Whether `p`, standing to the left of `o`, takes the operand between them. -/
def takesBefore (p o : Operator) : Bool :=
  match o.associativity with
  | .left => o.precedence ≤ p.precedence
  | .right => o.precedence < p.precedence

theorem takesBefore_iff (p o : Operator) :
    p.takesBefore o = true ↔
      o.precedence < p.precedence ∨ o.precedence = p.precedence ∧ o ≠ .power := by
  cases p <;> cases o <;> decide

end Operator

inductive Failure where
  | invalidCharacter (character : Char) (position : Nat)
  | unmatchedBracket
  | unexpectedToken (character : Char)
  | divisionByZero
  | malformedExpression
  | overflow
  | negativeExponent
  deriving DecidableEq, Repr

namespace Failure

def message : Failure → Text
  | invalidCharacter c n =>
      "caractère invalide '".toList ++ c :: "' (position ".toList ++ Text.decimal n ++ [')']
  | unmatchedBracket => "parenthèses non appariées".toList
  | unexpectedToken c => "jeton inattendu: '".toList ++ c :: "'".toList
  | divisionByZero => "division par zéro".toList
  | malformedExpression => "expression mal formée".toList
  | overflow => "dépassement de capacité (entier 64 bits)".toList
  | negativeExponent => "exposant négatif (puissance entière seulement)".toList

end Failure

theorem bind_eq_ok_iff {α β : Type} {x : Except Failure α} {f : α → Except Failure β} {b : β} :
    x >>= f = .ok b ↔ ∃ a, x = .ok a ∧ f a = .ok b := by
  cases x <;> simp [bind, Except.bind]

namespace Arithmetic

/-- The range of 64 bits, from `-2 ^ 63` to `2 ^ 63 - 1`. -/
def Fits (n : Int) : Prop := -9223372036854775808 ≤ n ∧ n ≤ 9223372036854775807

instance (n : Int) : Decidable (Fits n) := inferInstanceAs (Decidable (_ ∧ _))

def fit? (n : Int) : Option Int64 := if Fits n then some (Int64.ofInt n) else none

theorem fits_toInt (a : Int64) : Fits a.toInt :=
  ⟨a.le_toInt, Int.le_of_lt_add_one a.toInt_lt⟩

theorem fit?_eq_some_iff (n : Int) (a : Int64) : fit? n = some a ↔ a.toInt = n := by
  unfold fit?
  split
  next h =>
    rw [Option.some.injEq]
    constructor
    · rintro rfl
      exact Int64.toInt_ofInt_of_le h.1 (Int.lt_add_one_of_le h.2)
    · rintro rfl
      exact Int64.ofInt_toInt a
  next h =>
    simp only [reduceCtorEq, false_iff]
    rintro rfl
    exact h (fits_toInt a)

theorem fit?_eq_none_iff (n : Int) : fit? n = none ↔ ¬ Fits n := by
  simp [fit?]

@[simp] theorem fit?_toInt (a : Int64) : fit? a.toInt = some a :=
  (fit?_eq_some_iff _ _).2 rfl

def add? (a b : Int64) : Option Int64 := fit? (a.toInt + b.toInt)

def sub? (a b : Int64) : Option Int64 := fit? (a.toInt - b.toInt)

def mul? (a b : Int64) : Option Int64 := fit? (a.toInt * b.toInt)

def quotient? (a b : Int64) : Option Int64 := fit? (a.toInt.tdiv b.toInt)

/-- Multiplies `product`, which already stands for the lowest bit of an odd
exponent, by the squares that the bits above it ask for. -/
def powHigherBits? (product base : Int64) (exponent : Nat) : Option Int64 :=
  if exponent ≤ 1 then some product
  else do
    let square ← mul? base base
    let product ← if exponent / 2 % 2 = 1 then mul? product square else some product
    powHigherBits? product square (exponent / 2)
termination_by exponent

def pow? (base : Int64) (exponent : Nat) : Option Int64 :=
  if exponent = 0 then some 1
  else if exponent % 2 = 0 then do
    let square ← mul? base base
    pow? square (exponent / 2)
  else powHigherBits? base base exponent
termination_by exponent

end Arithmetic

open Arithmetic

/-- The checked operation of each symbol. A divisor or an exponent is judged
before anything is computed. An exponent is counted in a machine word, which is
taken to have 64 bits and so holds them all; in words of 32 bits the exponents
from `2 ^ 32` on would be an overflow, whatever the base. -/
def Operator.apply (o : Operator) (a b : Int64) : Except Failure Int64 :=
  match o with
  | .plus => orOverflow (add? a b)
  | .minus => orOverflow (sub? a b)
  | .times => orOverflow (mul? a b)
  | .divide => if b = 0 then .error .divisionByZero else orOverflow (quotient? a b)
  | .power =>
      if b < 0 then .error .negativeExponent else orOverflow (pow? a b.toInt.toNat)
where
  orOverflow : Option Int64 → Except Failure Int64
    | some n => .ok n
    | none => .error .overflow

end IntegerCalculator
