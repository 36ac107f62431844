import IntegerCalculator.Journal.Pattern.Escape

/-! Sets of characters written between square brackets: single characters, ranges,
escapes, names between colons and further brackets, all united, with the doubled
signs for intersection, difference and symmetric difference between them. These
signs bind alike, from the left, and weaker than union. -/

namespace IntegerCalculator.Pattern

/-- A set under construction: what the signs so far leave to be done with the
members that are being collected. -/
structure ClassDraft where
  pending : CharSet → CharSet := id
  members : CharSet := .empty

namespace ClassDraft

def add (d : ClassDraft) (s : CharSet) : ClassDraft :=
  { d with members := .union d.members s }

def set (d : ClassDraft) : CharSet := d.pending d.members

def combine (d : ClassDraft) (operation : CharSet → CharSet → CharSet) : ClassDraft :=
  { pending := operation d.set }

end ClassDraft

structure ClassOpening where
  span : Span
  negated : Bool
  draft : ClassDraft

namespace Reading

def charSet (c : Char) (first last : Nat) : Reading CharSet := do
  if (← get).flags.ascii ∧ c.toNat ≥ 0x80 then lack .unicodeForbidden first last
  return .single c

def classAtom : Reading Atom := do
  match ← next? with
  | some '\\' => Atom.escape
  | some c =>
    skip 1
    return .literal c
  | none => return .set .empty

def classMember (opening : Span) : Reading CharSet := do
  let unclosed {α : Type} : Reading α := refuse .unclosedClass opening.first opening.last
  let first ← position
  let low ← classAtom
  let last ← position
  skipIgnored
  let after ← next?
  if after.isNone then unclosed
  let following ← secondKept?
  if after != some '-' ∨ following = some ']' ∨ following = some '-' then
    match low with
    | .literal c => charSet c first last
    | .set s => return s
    | .condition _ => refuse .unsuitableEscape first last
  else
    advance
    if (← next?).isNone then unclosed
    let second ← position
    let high ← classAtom
    let stop ← position
    match low, high with
    | .literal a, .literal b =>
      if b < a then refuse .reversedRange first stop
      let _ ← charSet a first last
      let _ ← charSet b second stop
      return .range a b
    | .literal _, _ => refuse .nonliteralRange second stop
    | _, _ => refuse .nonliteralRange first last

def finished (s : CharSet) (negated : Bool) (first : Nat) : Reading CharSet := do
  let flags := (← get).flags
  let last ← position
  if flags.caseless ∧ !flags.ascii then lack .unavailableCase first last
  let s := if flags.caseless then s.caseless else s
  let s := if negated then s.complement else s
  if flags.ascii ∧ s.contains '\x80' then lack .invalidEncoding first last
  return s

def namedSet? : Reading (Option CharSet) := do
  let before ← get
  if ← passes "[:".toList then
    let negated ← passes ['^']
    let rest := (← get).rest
    let name := rest.takeWhile (· != ':')
    skip name.length
    if ← passes ":]".toList then
      match CharSet.ofName? name with
      | some s => return some (← finished s negated before.position)
      | none => pure ()
  modify fun _ => before
  return none

def leadingHyphens (first : Nat) : Nat → ClassDraft → Reading ClassDraft
  | 0, d => return d
  | n + 1, d => do
    if (← next?) = some '-' then
      advance
      if (← next?).isNone then refuse .unclosedClass first first
      leadingHyphens first n (d.add (.single '-'))
    else return d

/-- The bracket that opens a class, with what has a meaning of its own right after
it: a caret, hyphens, or a closing bracket that stands for itself. -/
def classOpening : Reading ClassOpening := do
  let first ← position
  let needsMore : Reading Unit := do
    if (← next?).isNone then refuse .unclosedClass first (← position)
  advance
  needsMore
  let negated := (← next?) = some '^'
  if negated then
    advance
    needsMore
  let hyphenated := (← next?) = some '-'
  let mut draft ← leadingHyphens first (← length) {}
  if !hyphenated ∧ (← next?) = some ']' then
    draft := draft.add (.single ']')
    advance
    needsMore
  return ⟨⟨first, ← position⟩, negated, draft⟩

/-- The rest of a class up to its closing bracket. Every round reads a character. -/
def classRest (opening : ClassOpening) : Nat → ClassDraft → Reading CharSet
  | 0, d => return d.set
  | n + 1, d => do
    skipIgnored
    match ← next? with
    | none => refuse .unclosedClass opening.span.first opening.span.last
    | some ']' =>
      skip 1
      finished d.set opening.negated opening.span.first
    | some '[' =>
      match ← namedSet? with
      | some s => classRest opening n (d.add s)
      | none =>
        let inner ← classOpening
        let s ← classRest inner n inner.draft
        classRest opening n (d.add s)
    | some _ =>
      if ← passes "&&".toList then classRest opening n (d.combine .intersection)
      else if ← passes "--".toList then classRest opening n (d.combine .difference)
      else if ← passes "~~".toList then
        classRest opening n (d.combine .symmetricDifference)
      else
        let s ← classMember opening.span
        classRest opening n (d.add s)

def charClass : Reading CharSet := do
  let rounds ← length
  let opening ← classOpening
  classRest opening rounds opening.draft

end Reading

end IntegerCalculator.Pattern
