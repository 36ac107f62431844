import IntegerCalculator.Journal
import IntegerCalculator.Journal.Pattern.OfText

/-! Which records of the journal are shown. A filter is written as directives
between commas: a level for everything, the name of a part of the program, or
`part=level`. A part is named by any beginning of its path; of the directives
that name the writer of a record the longest decides, and the level without a
name when none does. A directive replaces an earlier one for the same name, and
a filter without directives shows errors only. A pattern may follow after a slash:
then a record is shown only if the pattern occurs in its text. What cannot be read
is left out, with a warning. -/

namespace IntegerCalculator

/-- The greatest verbosity shown, where `none` stands for nothing at all. -/
abbrev Threshold := Option Level

namespace Threshold

def everything : Threshold := some .trace

def admits (t : Threshold) (l : Level) : Bool :=
  match t with
  | none => false
  | some most => l.verbosity ≤ most.verbosity

def ofText? (s : Text) : Option Threshold :=
  let name := s.map Char.toUpper
  if name = "OFF".toList then some none
  else (Level.all.find? fun l => l.name == name).map some

end Threshold

inductive Complaint where
  | unreadable (directive : Text)
  | crowded (filter : Text)
  | pattern (written : Text) (refusal : Pattern.Refusal)
  deriving DecidableEq, Repr

namespace Complaint

def reason : Complaint → Text
  | unreadable directive => "invalid logging spec '".toList ++ directive ++ ['\'']
  | crowded filter => "invalid logging spec '".toList ++ filter ++ "' (too many '/'s)".toList
  | pattern written refusal => "invalid regex filter - ".toList ++ refusal.report written

def warning (c : Complaint) : List Text :=
  ("warning: ".toList ++ c.reason ++ ", ignoring it".toList).splitOn '\n'

end Complaint

structure Directive where
  path? : Option Text
  threshold : Threshold
  deriving DecidableEq, Repr

namespace Directive

def ofText (s : Text) : Except Complaint Directive :=
  match s.splitOn '=' with
  | [word] =>
      match Threshold.ofText? word with
      | some t => .ok ⟨none, t⟩
      | none => .ok ⟨some word, Threshold.everything⟩
  | [path, level] =>
      let level := Text.trim level
      if level.isEmpty then .ok ⟨some path, Threshold.everything⟩
      else
        match Threshold.ofText? level with
        | some t => .ok ⟨some path, t⟩
        | none => .error (.unreadable level)
  | _ => .error (.unreadable s)

/-- Puts a directive in the place of the one for the same name, or else at the end. -/
def putIn (d : Directive) : List Directive → List Directive
  | [] => [d]
  | e :: es => if e.path? = d.path? then d :: es else e :: d.putIn es

def concerns (d : Directive) (r : Record) : Bool :=
  match d.path? with
  | none => true
  | some path => path.isPrefixOf r.source.path

def specificity (d : Directive) : Nat := (d.path?.getD []).length

end Directive

structure Filter where
  directives : List Directive
  pattern? : Option Pattern := none
  complaints : List Complaint := []
  deriving DecidableEq, Repr

namespace Filter

def errorsOnly : Filter := { directives := [⟨none, some .error⟩] }

def addDirective (f : Filter) (s : Text) : Filter :=
  match Directive.ofText s with
  | .ok d => { f with directives := d.putIn f.directives }
  | .error c => { f with complaints := f.complaints ++ [c] }

def addPattern (f : Filter) (s : Text) : Filter :=
  match Pattern.ofText s with
  | .ok p => { f with pattern? := some p }
  | .error r => { f with complaints := f.complaints ++ [.pattern s r] }

def ofDirectives (s : Text) : Filter :=
  let words := ((s.splitOn ',').map Text.trim).filter fun w => !w.isEmpty
  let f := words.foldl addDirective { directives := [] }
  if f.directives.isEmpty then { f with directives := errorsOnly.directives } else f

def ofText (s : Text) : Filter :=
  match s.splitOn '/' with
  | [directives] => ofDirectives directives
  | [directives, pattern] => (ofDirectives directives).addPattern pattern
  | _ => { errorsOnly with complaints := [.crowded s] }

def warnings (f : Filter) : List Text := f.complaints.flatMap Complaint.warning

/-- The most specific directive that concerns the record, the later of two equals. -/
def decisive? (f : Filter) (r : Record) : Option Directive :=
  (f.directives.filter (·.concerns r)).foldl
    (fun best d =>
      match best with
      | none => some d
      | some b => if b.specificity ≤ d.specificity then some d else some b)
    none

def admits (f : Filter) (r : Record) : Bool :=
  (f.decisive? r).any (·.threshold.admits r.level) && f.pattern?.all (·.occursIn r.text)

end Filter

end IntegerCalculator
