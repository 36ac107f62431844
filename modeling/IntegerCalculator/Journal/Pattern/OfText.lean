import IntegerCalculator.Journal.Pattern.Class
import IntegerCalculator.Journal.Pattern.Group

/-! Reading a pattern. Parts stand one after the other; a vertical bar separates
alternatives and binds weakest, a repetition binds its sign to the part before it.
A repetition may prefer few matches to many, which changes nothing for whether it
occurs. Closing brackets and braces that close nothing stand for themselves. -/

namespace IntegerCalculator.Pattern

/-- A group under construction, all lists with the latest first. In place of a part
that only sets flags, and so cannot be repeated, there is nothing. -/
structure Draft where
  alternatives : List Pattern := []
  parts : List (Option Pattern) := []

namespace Draft

def add (d : Draft) (p : Option Pattern) : Draft := { d with parts := p :: d.parts }

def joined (d : Draft) : Pattern :=
  d.parts.foldl (fun rest p => match p with | some p => .sequence p rest | none => rest) .empty

def alternate (d : Draft) : Draft := { alternatives := d.joined :: d.alternatives }

def pattern (d : Draft) : Pattern :=
  d.alternatives.foldl (fun rest p => .either p rest) d.joined

end Draft

namespace Reading

def point : Reading Pattern := do
  let here ← position
  if (← get).flags.ascii then lack .invalidEncoding here (here + 1)
  skip 1
  return .char (CharSet.single '\n').complement

def literal (c : Char) (first : Nat) : Reading Pattern := do
  let flags := (← get).flags
  if flags.caseless ∧ !flags.ascii then lack .unavailableCase first (← position)
  let s := CharSet.single c
  return .char (if flags.caseless then s.caseless else s)

def plainPart (c : Char) : Reading Pattern := do
  let first ← position
  if c = '.' then point
  else if c = '\\' then
    match ← Atom.escape with
    | .literal c => literal c first
    | .set s => return .char s
    | .condition p => return p
  else
    skip 1
    if c = '^' then return .start
    else if c = '$' then return .stop
    else literal c first

/-- A number of 32 bits in a count. What is wrong with it matters only where it is
needed. -/
def count : Reading (Except Refusal Nat) := do
  let rounds ← length
  let _ ← takeWhile Text.isBlank rounds
  let first ← position
  let digits ← takeWhile Char.isDigit rounds
  let last ← position
  let _ ← takeWhile Text.isBlank rounds
  let n := digits.foldl (fun n d => 10 * n + (d.toNat - '0'.toNat)) 0
  if digits.isEmpty then return .error (.fault .missingCount ⟨first, last⟩ none)
  else if n < 4294967296 then return .ok n
  else return .error (.fault .excessiveCount ⟨first, last⟩ none)

def bounds : Reading (Nat × Option Nat) := do
  let first ← position
  let unclosed {α : Type} : Reading α := do refuse .unclosedCount first (← position)
  let needsMore : Reading Unit := do
    if (← next?).isNone then unclosed
  advance
  needsMore
  let low ← count
  needsMore
  let read : Nat × Option Nat ←
    if (← next?) = some ',' then do
      advance
      needsMore
      if (← next?) = some '\x7d' then pure (← MonadExcept.ofExcept low, none)
      else do
        let least ← MonadExcept.ofExcept low
        pure (least, some (← MonadExcept.ofExcept (← count)))
    else do
      let times ← MonadExcept.ofExcept low
      pure (times, some times)
  if (← next?) != some '\x7d' then unclosed
  advance
  let _ ← passes ['?']
  match read with
  | (least, some most) =>
    if most < least then refuse .reversedCount first (← position)
    return read
  | _ => return read

def repetition (sign : Char) : Reading (Nat × Option Nat) := do
  if sign = '\x7b' then bounds
  else
    skip 1
    let _ ← passes ['?']
    if sign = '?' then return (0, some 1)
    else if sign = '*' then return (0, none)
    else return (1, none)

/-- The rest of a group, or of the whole pattern when none is open. Every round reads
a character, except the last at the end. -/
def groupRest (opened? : Option Span) : Nat → Draft → Reading Pattern
  | 0, d => return d.pattern
  | n + 1, d => do
    skipIgnored
    let here ← position
    match ← next? with
    | none =>
      match opened? with
      | none => return d.pattern
      | some opened => refuse .unclosedGroup opened.first opened.last
    | some c =>
      if c = '(' then
        let flags := (← get).flags
        match ← groupOpening with
        | .setting flags =>
          modify fun c => { c with flags := flags }
          groupRest opened? n (d.add none)
        | .group inner =>
          modify fun c => { c with flags := inner }
          let p ← groupRest (some ⟨here, here + 1⟩) n {}
          modify fun c => { c with flags := flags }
          groupRest opened? n (d.add p)
      else if c = ')' then
        if opened?.isNone then refuseNext .unopenedGroup
        skip 1
        return d.pattern
      else if c = '|' then
        skip 1
        groupRest opened? n d.alternate
      else if c = '[' then
        let s ← charClass
        groupRest opened? n (d.add (some (.char s)))
      else if c = '*' ∨ c = '+' ∨ c = '?' ∨ c = '\x7b' then
        match d.parts with
        | some p :: parts =>
          let (least, most?) ← repetition c
          groupRest opened? n { d with parts := some (.repeated p least most?) :: parts }
        | _ => refuseHere .missingOperand
      else
        let p ← plainPart c
        groupRest opened? n (d.add p)

end Reading

def ofText (s : Text) : Except Refusal Pattern := do
  let (p, last) ← (Reading.groupRest none (s.length + 1) {}).run { rest := s }
  match last.lacking? with
  | some refusal => throw refusal
  | none => if last.needsWords then throw .unsupported else return p

end IntegerCalculator.Pattern
