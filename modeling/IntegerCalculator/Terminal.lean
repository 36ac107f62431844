import IntegerCalculator.Calculation

/-! The terminal session. It opens with the manual; then a prompt precedes each
line, and each line has one answer that depends on nothing but the line. The
session ends at a line that asks to leave, at a line that is no text, or with
the input. A failed calculation is an answer like any other. A line ends at a
line feed, together with one carriage return before it; what follows the last
line feed is a line unless it is empty.

A session is first a list of events that depends on the input alone. Delivering
it writes the texts and collects the records, up to input that cannot be read as
text. An output may have room for a number of bytes only: then the first text
that does not fit is written as far as it fits, and nothing after it happens.
So one event of writing stands for one place that writes and passes its error
on, as every place of the session does; flushing is taken never to fail. -/

namespace IntegerCalculator.Terminal

open Text (Bytes)

inductive Event where
  | write (text : Text)
  | record (r : Record)
  | unreadable
  deriving DecidableEq, Repr

inductive Interruption where
  | unreadableInput
  | fullOutput
  deriving DecidableEq, Repr

structure Delivery where
  written : Bytes := []
  records : List Record := []
  interruption? : Option Interruption := none
  deriving DecidableEq, Repr

namespace Delivery

def afterWriting (bytes : Bytes) (d : Delivery) : Delivery :=
  { d with written := bytes ++ d.written }

def afterRecord (r : Record) (d : Delivery) : Delivery :=
  { d with records := r :: d.records }

end Delivery

def deliver : List Event → Delivery
  | [] => {}
  | .write text :: events => (deliver events).afterWriting (Text.encode text)
  | .record r :: events => (deliver events).afterRecord r
  | .unreadable :: _ => { interruption? := some .unreadableInput }

def deliverWithin : (room : Nat) → List Event → Delivery
  | _, [] => {}
  | room, .write text :: events =>
      let bytes := Text.encode text
      if bytes.length ≤ room then
        (deliverWithin (room - bytes.length) events).afterWriting bytes
      else { written := bytes.take room, interruption? := some .fullOutput }
  | room, .record r :: events => (deliverWithin room events).afterRecord r
  | _, .unreadable :: _ => { interruption? := some .unreadableInput }

def lines : Bytes → List Bytes
  | [] => []
  | 10 :: rest => [] :: lines rest
  | 13 :: 10 :: rest => [] :: lines rest
  | b :: rest =>
      match lines rest with
      | [] => [[b]]
      | line :: more => (b :: line) :: more

@[simp] theorem lines_lineFeed (rest : Bytes) : lines (10 :: rest) = [] :: lines rest := rfl

def manual : Text :=
  title ++ '\n' :: List.replicate 100 '=' ++
    ("\n\nSupporte [0-9], [()], [+-*/], [^]\n" ++
      "Tapez 'exit' pour quitter\n" ++
      "Tapez 'help' pour afficher ce manuel\n" ++
      "Note : pas d’opérations décimales (entiers 64 bits seulement).\n").toList

def prompt : Text := "Expression :\n> ".toList

inductive Command where
  | leave
  | help
  | nothing
  | expression (s : Text)
  deriving DecidableEq, Repr

namespace Command

/-- A command word counts wherever it stands in the line, in upper or lower
case. Only ASCII letters are lowered: of all other characters U+0130 alone has
a lower case with a letter of these words, and that one brings a dot with it. -/
def ofLine (line : Text) : Command :=
  let s := Text.trim line
  let lower := s.map Char.toLower
  if Text.containsWord "exit".toList lower then leave
  else if Text.containsWord "help".toList lower then help
  else if s.isEmpty then nothing
  else expression s

def reply : Except Failure Solution → Text
  | .ok solution => Text.decimal solution.value.toInt ++ "\n\n".toList
  | .error e => "Erreur : ".toList ++ e.message ++ ".\n\n".toList

def answer : Command → List Event
  | leave => [.write "Au revoir !\n".toList]
  | help => [.write manual]
  | nothing => [.write "Erreur : expression vide.\n\n".toList]
  | expression s =>
      let solved := Calculation.solve s
      .record ⟨.debug, .terminal, "console: ".toList ++ Text.quoted s⟩ ::
        solved.records.map .record ++ [.write (reply solved.value)]

end Command

structure Exchange where
  events : List Event
  continues : Bool

def exchange : Option Bytes → Exchange
  | none => ⟨[.write ['\n'], .record ⟨.info, .terminal, "fin d’entrée".toList⟩], false⟩
  | some bytes =>
      match Text.decode? bytes with
      | none => ⟨[.unreadable], false⟩
      | some line =>
          let command := Command.ofLine line
          ⟨command.answer, command ≠ .leave⟩

def exchanges : List Bytes → List Event
  | [] => .write prompt :: (exchange none).events
  | line :: rest =>
      let now := exchange (some line)
      .write prompt :: now.events ++ if now.continues then exchanges rest else []

def session (input : Bytes) : List Event := .write manual :: exchanges (lines input)

end IntegerCalculator.Terminal
