import IntegerCalculator.Journal.Pattern.Cursor

/-! What opens a group, or changes flags without opening one. A group may be named,
or set flags for itself alone; its name means nothing for what it matches. Of the
flags, those on the ends of lines, on the point and on the preference between
matches decide nothing here, since a record is one line and only whether a pattern
occurs is asked. -/

namespace IntegerCalculator.Pattern

inductive Flag where
  | caseless
  | multipleLines
  | pointTakesAll
  | shortFirst
  | unicode
  | returnEndsLine
  | spacious
  deriving DecidableEq, Repr

def Flag.ofLetter? (c : Char) : Option Flag :=
  if c = 'i' then some caseless
  else if c = 'm' then some multipleLines
  else if c = 's' then some pointTakesAll
  else if c = 'U' then some shortFirst
  else if c = 'u' then some unicode
  else if c = 'R' then some returnEndsLine
  else if c = 'x' then some spacious
  else none

def Flags.put (flags : Flags) (f : Flag) (value : Bool) : Flags :=
  match f with
  | .caseless => { flags with caseless := value }
  | .unicode => { flags with ascii := !value }
  | .spacious => { flags with spacious := value }
  | _ => flags

abbrev FlagSign := Option Flag

def Flags.putAll (flags : Flags) : Bool → List FlagSign → Flags
  | _, [] => flags
  | _, none :: signs => flags.putAll false signs
  | value, some f :: signs => (flags.put f value).putAll value signs

inductive GroupOpening where
  | setting (flags : Flags)
  | group (flags : Flags)

namespace Reading

/-- The signs up to a colon or a closing parenthesis, with their positions; those
before them are in `done`, the latest first. -/
def flagSigns : Nat → List (FlagSign × Nat) → Reading (List (FlagSign × Nat))
  | 0, done => return done.reverse
  | n + 1, done => do
    let here ← position
    match ← next? with
    | none => refuseHere .unfinishedFlags
    | some c =>
      if c = ':' ∨ c = ')' then
        match done with
        | (none, hyphen) :: _ => refuse .danglingNegation hyphen (hyphen + 1)
        | _ => return done.reverse
      else
        let sign : FlagSign ←
          if c = '-' then pure none
          else match Flag.ofLetter? c with
            | some f => pure (some f)
            | none => refuseNext .unknownFlag
        match done.find? (·.1 == sign) with
        | some (_, earlier) =>
          let cause := if sign.isNone then Fault.repeatedNegation else .duplicateFlag
          throw (.fault cause ⟨here, here + 1⟩ (some ⟨earlier, earlier + 1⟩))
        | none =>
          skip 1
          if (← next?).isNone then refuseHere .unfinishedFlags
          flagSigns n ((sign, here) :: done)

def isNameChar (c : Char) (isFirst : Bool) : Bool :=
  c = '_' || c.isAlpha || 0x80 ≤ c.toNat ||
    (!isFirst && (c.isDigit || c = '.' || c = '[' || c = ']'))

def nameChars : Nat → Bool → Reading Text
  | 0, _ => return []
  | n + 1, isFirst => do
    match ← next? with
    | none => refuseHere .unclosedGroupName
    | some c =>
      if c = '>' then return []
      else if isNameChar c isFirst then
        skip 1
        return c :: (← nameChars n false)
      else refuseNext .invalidGroupName

def groupName : Reading Unit := do
  let first ← position
  let name ← nameChars ((← length) + 1) true
  let last ← position
  skip 1
  if name.isEmpty then refuse .emptyGroupName first first
  match (← get).groupNames.lookup name with
  | some earlier => throw (.fault .duplicateGroupName ⟨first, last⟩ (some earlier))
  | none => modify fun c => { c with groupNames := (name, ⟨first, last⟩) :: c.groupNames }

def groupOpening : Reading GroupOpening := do
  let first ← position
  advance
  let flags := (← get).flags
  for looking in ["?=".toList, "?!".toList, "?<=".toList, "?<!".toList] do
    if ← passes looking then refuse .lookAround first (← position)
  let inside ← position
  if ← passes "?P<".toList <||> passes "?<".toList then
    groupName
    return .group flags
  else if ← passes ['?'] then
    if (← next?).isNone then refuse .unclosedGroup first (first + 1)
    let signs ← flagSigns ((← length) + 1) []
    let flags := flags.putAll true (signs.map (·.1))
    if ← passes [':'] then return .group flags
    skip 1
    if signs.isEmpty then refuse .missingOperand inside inside
    return .setting flags
  else return .group flags

end Reading

end IntegerCalculator.Pattern
