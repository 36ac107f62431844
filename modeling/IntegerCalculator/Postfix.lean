import IntegerCalculator.Token

/-! Conversion of an expression to the order in which it is computed, operands
before their operator, and the value of such an order. The tokens are read
once, from the left. What has been decided is emitted; operators that still
wait for their right operand, and brackets that are still open, are pending,
the innermost first. Operands and operators have to alternate, and a token out
of turn is refused before anything else is said about it.

The value is found with a stack of operands, the top first. A number is pushed;
an operator takes the two topmost operands, the upper one as its right operand.
Brackets have no place there, and exactly one operand may be left at the end. -/

namespace IntegerCalculator

inductive Pending where
  | operator (o : Operator)
  | opening
  deriving DecidableEq, Repr

namespace Pending

def token : Pending → Token
  | operator o => .operator o
  | opening => .opening

def isOperator : Pending → Bool
  | operator _ => true
  | opening => false

def takesBefore (o : Operator) : Pending → Bool
  | operator p => p.takesBefore o
  | opening => false

/-- It is the precedence of the pending token that decides; that of a bracket is below all. -/
theorem takesBefore_iff (o : Operator) (x : Pending) :
    x.takesBefore o = true ↔
      o.precedence < x.token.precedence ∨ o.precedence = x.token.precedence ∧ o ≠ .power := by
  cases x with
  | operator p => exact Operator.takesBefore_iff p o
  | opening => cases o <;> decide

end Pending

/-- The state between two tokens, with the latest emitted token first. -/
structure Conversion where
  emitted : List Token := []
  pending : List Pending := []
  expectsOperand : Bool := true
  deriving DecidableEq, Repr

namespace Conversion

def release (p : Pending → Bool) (s : Conversion) : Conversion :=
  { s with
    emitted := ((s.pending.takeWhile p).map Pending.token).reverse ++ s.emitted
    pending := s.pending.dropWhile p }

def close (s : Conversion) : Except Failure Conversion :=
  let released := s.release Pending.isOperator
  match released.pending with
  | [] => .error .unmatchedBracket
  | _ :: outer => .ok { released with pending := outer }

def suspend (o : Operator) (s : Conversion) : Conversion :=
  let released := s.release (Pending.takesBefore o)
  { released with pending := .operator o :: released.pending, expectsOperand := true }

def step (s : Conversion) (t : Token) : Except Failure Conversion :=
  if t.beginsOperand ≠ s.expectsOperand then .error .malformedExpression
  else
    match t with
    | .number _ => .ok { s with emitted := t :: s.emitted, expectsOperand := false }
    | .operator o => .ok (s.suspend o)
    | .opening => .ok { s with pending := .opening :: s.pending }
    | .closing => s.close

def finish (s : Conversion) : Except Failure (List Token) :=
  if s.expectsOperand then .error .malformedExpression
  else
    let released := s.release Pending.isOperator
    if released.pending.isEmpty then .ok released.emitted.reverse
    else .error .unmatchedBracket

def run (s : Conversion) (ts : List Token) : Except Failure Conversion := ts.foldlM step s

theorem run_cons (s : Conversion) (t : Token) (ts : List Token) :
    s.run (t :: ts) = s.step t >>= fun s => s.run ts := rfl

theorem run_append (s : Conversion) (ts us : List Token) :
    s.run (ts ++ us) = s.run ts >>= fun s => s.run us := List.foldlM_append

end Conversion

namespace Postfix

def ofTokens (ts : List Token) : Except Failure (List Token) := do
  (← ({} : Conversion).run ts).finish

def ofText (s : Text) : Except Failure (List Token) := do
  ofTokens (← Token.ofText s)

abbrev Stack := List Int64

def step : Stack → Token → Except Failure Stack
  | stack, .number n => .ok (n :: stack)
  | b :: a :: stack, .operator o => do return (← o.apply a b) :: stack
  | _, .operator _ => .error .malformedExpression
  | _, .opening => .error (.unexpectedToken '(')
  | _, .closing => .error (.unexpectedToken ')')

def run (stack : Stack) (ts : List Token) : Except Failure Stack := ts.foldlM step stack

theorem run_cons (stack : Stack) (t : Token) (ts : List Token) :
    run stack (t :: ts) = step stack t >>= fun stack => run stack ts := rfl

theorem run_append (stack : Stack) (ts us : List Token) :
    run stack (ts ++ us) = run stack ts >>= fun stack => run stack us := List.foldlM_append

def single : Stack → Except Failure Int64
  | [n] => .ok n
  | _ => .error .malformedExpression

def value (ts : List Token) : Except Failure Int64 := do
  single (← run [] ts)

end Postfix

end IntegerCalculator
