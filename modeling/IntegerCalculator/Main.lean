import IntegerCalculator.CommandLine

/-! The program itself. It reads lines as they come and answers each at once;
all it says is decided elsewhere. The filter of the journal is taken from the
environment. -/

namespace IntegerCalculator.Main

def filterVariable : String := "RUST_LOG"

def showNotices (filter : Filter) (o : Outcome) : IO Unit := do
  for notice in o.shown filter do
    IO.eprintln (String.ofList notice.line)

def writeBytes (bytes : Text.Bytes) : IO Unit := do
  let output ← IO.getStdout
  output.write bytes.toByteArray
  output.flush

partial def readLine (input : IO.FS.Stream) (read : Text.Bytes) : IO (Option Text.Bytes) := do
  let byte ← input.read 1
  match byte.toList with
  | [] => return if read.isEmpty then none else some read.reverse
  | b :: _ => if b = 10 then return some (b :: read).reverse else readLine input (b :: read)

def showEvents (filter : Filter) (events : List Terminal.Event) : IO Bool := do
  let delivery := Terminal.deliver events
  writeBytes delivery.written
  showNotices filter { code := 0, notices := delivery.records.map .record }
  return delivery.interruption?.isNone

partial def converse (filter : Filter) (input : IO.FS.Stream) : IO Bool := do
  writeBytes (Text.encode Terminal.prompt)
  let line := (← readLine input []).bind fun bytes => (Terminal.lines bytes).head?
  let exchange := Terminal.exchange line
  if !(← showEvents filter exchange.events) then return false
  if exchange.continues then converse filter input else return true

def terminalMode (filter : Filter) : IO UInt32 := do
  showNotices filter { code := 0, notices := [CommandLine.announce "console".toList] }
  writeBytes (Text.encode Terminal.manual)
  if ← converse filter (← IO.getStdin) then return 0
  showNotices filter { code := 1, notices := [CommandLine.unreadable] }
  return 1

end IntegerCalculator.Main

open IntegerCalculator IntegerCalculator.Main

def main (arguments : List String) : IO UInt32 := do
  let filter :=
    match ← IO.getEnv filterVariable with
    | some s => Filter.ofText s.toList
    | none => Filter.errorsOnly
  for line in filter.warnings do
    IO.eprintln (String.ofList line)
  let arguments := arguments.map String.toList
  if Request.ofArguments? arguments = some .terminal then terminalMode filter
  else
    let outcome := CommandLine.run arguments []
    writeBytes outcome.output
    showNotices filter outcome
    return outcome.code.toUInt32
