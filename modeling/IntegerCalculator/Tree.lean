import IntegerCalculator.Token
import Mathlib.Algebra.Ring.Int.Defs

/-! Expression trees. They say what a sequence of tokens means: the order in
which the tokens are computed is the post-order of a tree, and its value is
found by recursion, left operand, right operand, then the operator. In the
unbounded integers every tree has a value, where division is toward zero and
the zeroth power of zero is one, and faults that keep it from having one of 64
bits. A fault belongs to one subtree; the subtrees are listed in post-order, so
that the first fault in the list is the one found first.

The grammar gives each sequence of tokens the tree it stands for. Sums and
products group to the left, powers to the right, and an operand is a number or
a bracketed sum. Operands and operators alternate strictly: there is no sign in
front of an operand and no operator left out between two. A tree is written
with brackets around every operator and its operands, or only where it would
otherwise be read differently. -/

namespace IntegerCalculator

inductive Tree where
  | leaf (n : Int64)
  | node (o : Operator) (left right : Tree)
  deriving DecidableEq, Repr

namespace Tree

def postorder : Tree → List Token
  | leaf n => [.number n]
  | node o l r => l.postorder ++ r.postorder ++ [.operator o]

def value : Tree → Except Failure Int64
  | leaf n => .ok n
  | node o l r => do
    let a ← l.value
    let b ← r.value
    o.apply a b

def leaves : Tree → List Int64
  | leaf n => [n]
  | node _ l r => l.leaves ++ r.leaves

end Tree

/-- A zero divisor gives zero and a negative exponent counts as zero; both are
faults of the subtree and such a value is never used. -/
def Operator.exact : Operator → Int → Int → Int
  | .plus, a, b => a + b
  | .minus, a, b => a - b
  | .times, a, b => a * b
  | .divide, a, b => a.tdiv b
  | .power, a, b => a ^ b.toNat

namespace Tree

def exact : Tree → Int
  | leaf n => n.toInt
  | node o l r => o.exact l.exact r.exact

/-- The fault of the outermost operator alone. -/
def ownFault? : Tree → Option Failure
  | leaf _ => none
  | node o l r =>
      if o = .divide ∧ r.exact = 0 then some .divisionByZero
      else if o = .power ∧ r.exact < 0 then some .negativeExponent
      else if Arithmetic.Fits (node o l r).exact then none
      else some .overflow

def subtrees : Tree → List Tree
  | leaf n => [leaf n]
  | node o l r => l.subtrees ++ r.subtrees ++ [node o l r]

def firstFault? (t : Tree) : Option Failure := t.subtrees.findSome? ownFault?

def enclose (ts : List Token) : List Token := .opening :: ts ++ [.closing]

def bracketed : Tree → List Token
  | leaf n => [.number n]
  | node o l r => enclose (l.bracketed ++ .operator o :: r.bracketed)

def needsBracketLeft (o : Operator) : Tree → Bool
  | leaf _ => false
  | node p _ _ => o = .power || p.precedence < o.precedence

def needsBracketRight (o : Operator) : Tree → Bool
  | leaf _ => false
  | node p _ _ =>
      if o = .power then p.precedence < o.precedence else p.precedence ≤ o.precedence

def sparse : Tree → List Token
  | leaf n => [.number n]
  | node o l r =>
      (if l.needsBracketLeft o then enclose l.sparse else l.sparse) ++ .operator o ::
        (if r.needsBracketRight o then enclose r.sparse else r.sparse)

end Tree

inductive Rank where
  | operand
  | power
  | product
  | sum
  deriving DecidableEq, Repr

inductive Sentence : Rank → List Token → Tree → Prop where
  | number (n : Int64) : Sentence .operand [.number n] (.leaf n)
  | bracket {ts : List Token} {t : Tree} :
      Sentence .sum ts t → Sentence .operand (.opening :: ts ++ [.closing]) t
  | ofOperand {ts : List Token} {t : Tree} : Sentence .operand ts t → Sentence .power ts t
  | power {ts us : List Token} {t u : Tree} :
      Sentence .operand ts t → Sentence .power us u →
      Sentence .power (ts ++ .operator .power :: us) (.node .power t u)
  | ofPower {ts : List Token} {t : Tree} : Sentence .power ts t → Sentence .product ts t
  | product {o : Operator} {ts us : List Token} {t u : Tree} : o = .times ∨ o = .divide →
      Sentence .product ts t → Sentence .power us u →
      Sentence .product (ts ++ .operator o :: us) (.node o t u)
  | ofProduct {ts : List Token} {t : Tree} : Sentence .product ts t → Sentence .sum ts t
  | sum {o : Operator} {ts us : List Token} {t u : Tree} : o = .plus ∨ o = .minus →
      Sentence .sum ts t → Sentence .product us u →
      Sentence .sum (ts ++ .operator o :: us) (.node o t u)

end IntegerCalculator
