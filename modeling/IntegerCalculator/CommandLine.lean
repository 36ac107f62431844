import IntegerCalculator.Journal.Filter
import IntegerCalculator.Terminal

/-! The program as it is called: what its arguments ask for, what it writes to its
output, what it leaves on its error stream, and its exit code. The arguments are
read from the left; the first that asks for help or cannot be accepted decides.
An option is given at most once and in full. A separate value may not begin with
a hyphen unless it is a hyphen alone, and the two options that choose a mode
exclude each other.

The error stream holds the warnings about the filter, which come before anything
else is done, then the records that the filter admits and, for a failed
expression, one plain line after them. Left out are the time in front of a
record, the usage text for refused arguments, and the window itself, which no
display is there to show. -/

namespace IntegerCalculator

inductive Request where
  | help
  | once (expression : Text)
  | terminal
  | window
  deriving DecidableEq, Repr

namespace Request

structure Options where
  expression? : Option Text := none
  terminal : Bool := false
  deriving DecidableEq, Repr

namespace Options

def request? (o : Options) : Option Request :=
  match o.expression?, o.terminal with
  | some _, true => none
  | some s, false => some (once s)
  | none, true => some Request.terminal
  | none, false => some window

def withExpression? (o : Options) (s : Text) : Option Options :=
  match o.expression? with
  | some _ => none
  | none => some { o with expression? := some s }

end Options

def isValue (argument : Text) : Bool := argument = ['-'] || !"-".toList.isPrefixOf argument

def asksForHelp (argument : Text) : Bool :=
  argument = "--help".toList || "-h".toList.isPrefixOf argument

def assignment : Text := "--expr=".toList

def read? (o : Options) : List Text → Option Request
  | [] => o.request?
  | argument :: rest =>
      if asksForHelp argument then some help
      else if argument = "--console".toList then
        if o.terminal then none else read? { o with terminal := true } rest
      else if argument = "--expr".toList then
        match rest with
        | [] => none
        | value :: rest =>
            if isValue value then (o.withExpression? value).bind fun o => read? o rest else none
      else if assignment.isPrefixOf argument then
        (o.withExpression? (argument.drop assignment.length)).bind fun o => read? o rest
      else if argument = "--".toList then
        if rest.isEmpty then o.request? else none
      else none

def ofArguments? (arguments : List Text) : Option Request := read? {} arguments

end Request

inductive Notice where
  | record (r : Record)
  | plain (text : Text)
  deriving DecidableEq, Repr

structure Outcome where
  code : Nat
  output : Text.Bytes := []
  notices : List Notice := []
  deriving DecidableEq, Repr

def Notice.line : Notice → Text
  | .record r => r.line
  | .plain text => text

namespace Outcome

def shown (f : Filter) (o : Outcome) : List Notice :=
  o.notices.filter fun
    | .record r => f.admits r
    | .plain _ => true

def diagnostics (f : Filter) (o : Outcome) : List Text :=
  f.warnings ++ (o.shown f).map Notice.line

end Outcome

namespace CommandLine

def help : Text :=
  ("Évalue des expressions entières\n\n" ++
    "Usage: calculatrice_entiere [OPTIONS]\n\n" ++
    "Options:\n" ++
    "      --console      Boucle de lecture en terminal (au lieu de la fenêtre)\n" ++
    "      --expr <EXPR>  Expression à évaluer une seule fois\n" ++
    "  -h, --help         Print help\n").toList

def refused : Outcome := { code := 2 }

def announce (mode : Text) : Notice :=
  .record ⟨.info, .program, "mode: ".toList ++ mode⟩

def once (s : Text) : Outcome :=
  let solved := Calculation.solve (Text.trim s)
  let notices := announce "évaluation unique".toList :: solved.records.map .record
  match solved.value with
  | .ok solution =>
      { code := 0
        output := Text.encode (Text.decimal solution.value.toInt ++ ['\n'])
        notices := notices }
  | .error e => { code := 1, notices := notices ++ [.plain ("Erreur : ".toList ++ e.message)] }

def unreadable : Notice :=
  .record ⟨.error, .program, "console: stream did not contain valid UTF-8".toList⟩

def terminal (input : Text.Bytes) : Outcome :=
  let delivery := Terminal.deliver (Terminal.session input)
  let notices := announce "console".toList :: delivery.records.map .record
  match delivery.interruption? with
  | none => { code := 0, output := delivery.written, notices := notices }
  | some _ => { code := 1, output := delivery.written, notices := notices ++ [unreadable] }

def window : Outcome :=
  { code := 1
    notices :=
      [announce "fenêtre".toList,
        .record ⟨.error, .program, "fenêtre: aucun affichage".toList⟩] }

def perform (input : Text.Bytes) : Request → Outcome
  | .help => { code := 0, output := Text.encode help }
  | .once s => once s
  | .terminal => terminal input
  | .window => window

def run (arguments : List Text) (input : Text.Bytes) : Outcome :=
  match Request.ofArguments? arguments with
  | some request => perform input request
  | none => refused

end CommandLine

end IntegerCalculator
