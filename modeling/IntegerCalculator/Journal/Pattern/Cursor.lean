import IntegerCalculator.Journal.Pattern
import IntegerCalculator.Journal.Pattern.Fault

/-! A place in a written pattern, with all that the part before it says about the
part after it. Reading goes on from there or refuses. A fault of the writing
refuses at once; a pattern that is well written but asks for what is not there is
refused only at the end, for the first such thing. -/

namespace IntegerCalculator.Pattern

structure Flags where
  caseless : Bool := false
  ascii : Bool := false
  spacious : Bool := false
  deriving DecidableEq, Repr

structure Cursor where
  rest : Text
  position : Nat := 0
  flags : Flags := {}
  groupNames : List (Text × Span) := []
  /-- The first thing that is asked for and not there. -/
  lacking? : Option Refusal := none
  /-- A boundary of words is asked for that ASCII does not decide. -/
  needsWords : Bool := false

abbrev Reading := StateT Cursor (Except Refusal)

def Cursor.dropIgnored : Bool → Text → Text
  | _, [] => []
  | true, c :: s => dropIgnored (c != '\n') s
  | false, c :: s =>
      if Text.isBlank c then dropIgnored false s
      else if c = '#' then dropIgnored true s
      else c :: s

namespace Reading

def next? : Reading (Option Char) := return (← get).rest.head?

def second? : Reading (Option Char) := return (← get).rest[1]?

def position : Reading Nat := return (← get).position

def refuse {α : Type} (cause : Fault) (first last : Nat) : Reading α :=
  throw (.fault cause ⟨first, last⟩ none)

def refuseNext {α : Type} (cause : Fault) : Reading α := do
  let here ← position
  refuse cause here (here + 1)

def refuseHere {α : Type} (cause : Fault) : Reading α := do
  let here ← position
  refuse cause here here

def lack (cause : Fault) (first last : Nat) : Reading Unit :=
  modify fun c =>
    if c.lacking?.isSome then c
    else { c with lacking? := some (.fault cause ⟨first, last⟩ none) }

def moveTo (rest : Text) : Reading Unit :=
  modify fun c =>
    { c with rest := rest, position := c.position + (c.rest.length - rest.length) }

def skip (n : Nat) : Reading Unit := do moveTo ((← get).rest.drop n)

def skipIgnored : Reading Unit := do
  let c ← get
  if c.flags.spacious then moveTo (Cursor.dropIgnored false c.rest)

def advance : Reading Unit := do
  skip 1
  skipIgnored

def passes (word : Text) : Reading Bool := do
  let found := word.isPrefixOf (← get).rest
  if found then skip word.length
  return found

def secondKept? : Reading (Option Char) := do
  let c ← get
  let rest := c.rest.drop 1
  return (if c.flags.spacious then Cursor.dropIgnored false rest else rest).head?

def takeWhile (inClass : Char → Bool) : Nat → Reading Text
  | 0 => return []
  | n + 1 => do
    match ← next? with
    | none => return []
    | some c =>
      if inClass c then
        advance
        return c :: (← takeWhile inClass n)
      else return []

def length : Reading Nat := return (← get).rest.length

end Reading

end IntegerCalculator.Pattern
