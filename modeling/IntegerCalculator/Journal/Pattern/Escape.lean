import IntegerCalculator.Journal.Pattern.Cursor

/-! What a backslash makes of the characters after it: a character that would mean
something else by itself, a character by its code point, a set, or a condition on
the position. Sets and word boundaries beyond ASCII are understood but not there. -/

namespace IntegerCalculator.Pattern

inductive Atom where
  | literal (c : Char)
  | set (s : CharSet)
  | condition (p : Pattern)
  deriving DecidableEq, Repr

namespace Atom

open Reading

def hexDigit? (c : Char) : Option Nat :=
  if c.isDigit then some (c.toNat - '0'.toNat)
  else if 'a' ≤ c ∧ c ≤ 'f' then some (c.toNat - 'a'.toNat + 10)
  else if 'A' ≤ c ∧ c ≤ 'F' then some (c.toNat - 'A'.toNat + 10)
  else none

def hexValue (digits : List Nat) : Nat := digits.foldl (fun n d => 16 * n + d) 0

def ofCodePoint (n first last : Nat) : Reading Atom :=
  if n.isValidChar then return .literal (Char.ofNat n)
  else refuse .invalidCodePoint first last

def fixedDigits : Nat → Reading (List Nat)
  | 0 => return []
  | n + 1 => do
    match ← next? with
    | none => refuseHere .unfinishedEscape
    | some c =>
      match hexDigit? c with
      | none => refuseNext .invalidHexadecimalDigit
      | some d =>
        advance
        return d :: (← fixedDigits n)

def bracedDigits : Nat → Reading (List Nat)
  | 0 => return []
  | n + 1 => do
    match ← next? with
    | none => return []
    | some '\x7d' => return []
    | some c =>
      match hexDigit? c with
      | none => refuseNext .invalidHexadecimalDigit
      | some d =>
        advance
        return d :: (← bracedDigits n)

def codePoint (size : Nat) : Reading Atom := do
  advance
  let first ← position
  match ← next? with
  | none => refuseHere .unfinishedEscape
  | some '\x7b' =>
    advance
    let digits ← bracedDigits (← length)
    let last ← position
    if (← next?).isNone then refuse .unfinishedEscape first last
    advance
    if digits.isEmpty then refuse .emptyHexadecimal first (← position)
    ofCodePoint (hexValue digits) (first + 1) last
  | some _ =>
    let digits ← fixedDigits size
    ofCodePoint (hexValue digits) first (← position)

def property (first : Nat) : Reading Atom := do
  advance
  match ← next? with
  | none => refuseHere .unfinishedEscape
  | some '\x7b' =>
    advance
    let _ ← takeWhile (· != '\x7d') (← length)
    if (← next?).isNone then refuseHere .unfinishedEscape
    skip 1
  | some '\\' => refuseNext .invalidProperty
  | some _ => advance
  let cause := if (← get).flags.ascii then Fault.unicodeForbidden else .unavailableProperty
  lack cause first (← position)
  return .set .empty

def letterSet (letter : Char) (first : Nat) : Reading Atom := do
  skip 1
  let s :=
    if letter.toLower = 'd' then CharSet.digits
    else if letter.toLower = 's' then CharSet.spaces
    else CharSet.words
  let last ← position
  if !(← get).flags.ascii then lack .unavailableClass first last
  else if letter.isUpper then lack .invalidEncoding first last
  return .set (if letter.isUpper then s.complement else s)

def boundaryNames : List Text :=
  ["start".toList, "end".toList, "start-half".toList, "end-half".toList]

/-- Passes the name between braces that may follow a word boundary. Braces around
anything that is no name are left to be read as a count. -/
def passBoundaryName (first : Nat) : Reading Bool := do
  let inName (c : Char) : Bool := c.isAlpha || c = '-'
  let before ← get
  advance
  match ← next? with
  | none => refuse .unfinishedBoundary first (← position)
  | some c =>
    if !inName c then
      modify fun _ => before
      return false
    let start ← position
    let name ← takeWhile inName (← length)
    let last ← position
    if (← next?) != some '\x7d' then refuse .unclosedBoundary before.position last
    skip 1
    if boundaryNames.contains name then return true
    refuse .unknownBoundary start last

def boundary (present : Bool) : Reading Atom := do
  if !(← get).flags.ascii then modify fun c => { c with needsWords := true }
  return .condition (.boundary present)

def isPunctuation (c : Char) : Bool :=
  c.toNat < 0x80 && !c.isAlphanum && c != '<' && c != '>'

def ofLetter (letter : Char) (first : Nat) : Reading Atom := do
  match letter with
  | 'a' => return .literal '\x07'
  | 'f' => return .literal '\x0c'
  | 't' => return .literal '\t'
  | 'n' => return .literal '\n'
  | 'r' => return .literal '\r'
  | 'v' => return .literal '\x0b'
  | 'A' => return .condition .start
  | 'z' => return .condition .stop
  | 'B' => boundary false
  | 'b' =>
    let named ← if (← next?) = some '\x7b' then passBoundaryName first else pure false
    if named then modify fun c => { c with needsWords := true }
    boundary true
  | '<' | '>' =>
    modify fun c => { c with needsWords := true }
    boundary true
  | _ => refuse .unknownEscape first (← position)

def escape : Reading Atom := do
  let first ← position
  skip 1
  match ← next? with
  | none => refuse .unfinishedEscape first (← position)
  | some c =>
    if c.isDigit then refuse .backreference first ((← position) + 1)
    else if c = 'x' then codePoint 2
    else if c = 'u' then codePoint 4
    else if c = 'U' then codePoint 8
    else if c = 'p' ∨ c = 'P' then property first
    else if "dswDSW".toList.contains c then letterSet c first
    else
      skip 1
      if isPunctuation c then return .literal c
      ofLetter c first

end Atom

end IntegerCalculator.Pattern
