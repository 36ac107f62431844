import IntegerCalculator.Text

/-! Patterns that are looked for in the text of a record. A pattern of this kind
describes the stretches of a text that it matches. Whether it occurs is found by
marking positions, those before, between and after the characters: from the marks
where a match may begin one computes the marks where it may end. A record is one
line, so its ends are also the only ends of a line. The characters that a pattern
admits at one place are a set, built from ranges of code points; the named sets
hold characters of ASCII only. -/

namespace IntegerCalculator

inductive CharSet where
  | empty
  | range (first last : Char)
  | union (a b : CharSet)
  | difference (a b : CharSet)
  /-- The letters of ASCII of which either case is in the set, and all else in it. -/
  | caseless (a : CharSet)
  deriving DecidableEq, Repr

namespace CharSet

def contains : CharSet → Char → Bool
  | empty, _ => false
  | range first last, c => first.toNat ≤ c.toNat && c.toNat ≤ last.toNat
  | union a b, c => a.contains c || b.contains c
  | difference a b, c => a.contains c && !b.contains c
  | caseless a, c => a.contains c || a.contains c.toLower || a.contains c.toUpper

def single (c : Char) : CharSet := range c c

def all : CharSet := range '\x00' (Char.ofNat 0x10FFFF)

def complement (a : CharSet) : CharSet := difference all a

def intersection (a b : CharSet) : CharSet := difference a (difference a b)

def symmetricDifference (a b : CharSet) : CharSet := union (difference a b) (difference b a)

def ofRanges : List (Char × Char) → CharSet
  | [] => empty
  | r :: rs => union (range r.1 r.2) (ofRanges rs)

def digits : CharSet := ofRanges [('0', '9')]

def words : CharSet := ofRanges [('0', '9'), ('A', 'Z'), ('_', '_'), ('a', 'z')]

def spaces : CharSet := ofRanges [('\t', '\r'), (' ', ' ')]

def named : List (Text × CharSet) :=
  [("alnum".toList, ofRanges [('0', '9'), ('A', 'Z'), ('a', 'z')]),
    ("alpha".toList, ofRanges [('A', 'Z'), ('a', 'z')]),
    ("ascii".toList, ofRanges [('\x00', '\x7f')]),
    ("blank".toList, ofRanges [('\t', '\t'), (' ', ' ')]),
    ("cntrl".toList, ofRanges [('\x00', '\x1f'), ('\x7f', '\x7f')]),
    ("digit".toList, digits),
    ("graph".toList, ofRanges [('!', '~')]),
    ("lower".toList, ofRanges [('a', 'z')]),
    ("print".toList, ofRanges [(' ', '~')]),
    ("punct".toList, ofRanges [('!', '/'), (':', '@'), ('[', '\x60'), ('\x7b', '~')]),
    ("space".toList, spaces),
    ("upper".toList, ofRanges [('A', 'Z')]),
    ("word".toList, words),
    ("xdigit".toList, ofRanges [('0', '9'), ('A', 'F'), ('a', 'f')])]

def ofName? (name : Text) : Option CharSet := named.lookup name

end CharSet

inductive Pattern where
  | empty
  | char (s : CharSet)
  | start
  | stop
  /-- Nothing, where an ASCII word begins or ends, or where none does. -/
  | boundary (present : Bool)
  | sequence (p q : Pattern)
  | either (p q : Pattern)
  | repeated (p : Pattern) (least : Nat) (most? : Option Nat)
  deriving DecidableEq, Repr

abbrev Marks := List Bool

namespace Marks

def union (m n : Marks) : Marks := List.zipWith or m n

def keep (places m : Marks) : Marks := List.zipWith and places m

/-- The marks after at most `n` rounds of `f`; the first round that adds none is the last. -/
def within (f : Marks → Marks) : Nat → Marks → Marks
  | 0, m => m
  | n + 1, m => if union m (f m) = m then m else within f n (union m (f m))

def after (f : Marks → Marks) (n : Nat) (m : Marks) : Marks := n.repeat f m

end Marks

namespace Pattern

def boundaries (s : Text) : Marks :=
  let inWord := s.map CharSet.words.contains
  List.zipWith (· != ·) (false :: inWord) (inWord ++ [false])

/-- Where a match can end that begins at a mark. More rounds than there are positions
reach nothing new. -/
def ends (s : Text) : Pattern → Marks → Marks
  | empty, m => m
  | char set, m => false :: List.zipWith (fun c here => here && set.contains c) s m
  | start, m => Marks.keep (true :: s.map fun _ => false) m
  | stop, m => Marks.keep ((s.map fun _ => false) ++ [true]) m
  | boundary present, m => Marks.keep ((boundaries s).map (· == present)) m
  | sequence p q, m => q.ends s (p.ends s m)
  | either p q, m => Marks.union (p.ends s m) (q.ends s m)
  | repeated p least most?, m =>
      let rounds := s.length + 1
      let optional := match most? with
        | none => rounds
        | some most => min (most - least) rounds
      Marks.within (p.ends s) optional (Marks.after (p.ends s) (min least rounds) m)

def occursIn (p : Pattern) (s : Text) : Bool :=
  (p.ends s (List.replicate (s.length + 1) true)).contains true

end Pattern

end IntegerCalculator
