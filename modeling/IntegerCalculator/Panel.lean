import IntegerCalculator.Calculation

/-! The panel: an entry, the last result, the last error, the steps of the last
successful calculation, and whether the entry is to be given the focus when it
is drawn next. A frame draws the panel once and handles what has happened
since the one before: first Escape, then the focus, then Enter, then a click.
The entry gives the focus up when Enter is pressed, so Enter evaluates only in
a frame that gives the focus. Pixels, colours and typing with a cursor are left
out; the text of the entry is set or extended as a whole.

Some buttons are keys for the text of the entry. Operators are set apart by
spaces and digits are joined to what is there; deleting takes one character
together with the spaces around it. -/

namespace IntegerCalculator

inductive Key where
  | digit (d : Fin 10)
  | opening
  | closing
  | operator (o : Operator)
  deriving DecidableEq, Repr

namespace Key

def character : Key → Char
  | digit d => d.val.digitChar
  | opening => '('
  | closing => ')'
  | operator o => o.symbol

end Key

namespace Entry

def dropSpaces (entry : Text) : Text := Text.dropTrailing (· == ' ') entry

def insert (entry : Text) : Key → Text
  | .digit d => entry ++ [(Key.digit d).character]
  | .opening => entry ++ ['(']
  | .closing => dropSpaces entry ++ [')']
  | .operator o =>
      let kept := dropSpaces entry
      kept ++ (if kept.isEmpty then [] else [' ']) ++ [o.symbol, ' ']

def deleteLast (entry : Text) : Text := dropSpaces (dropSpaces entry).dropLast

end Entry

inductive Button where
  | key (k : Key)
  | delete
  | clearEntry
  | clearResults
  | clearAll
  | equals
  deriving DecidableEq, Repr

namespace Button

def label : Button → Text
  | key k => [k.character]
  | delete => "DEL".toList
  | clearEntry => ['C']
  | clearResults => "CLR".toList
  | clearAll => "AC".toList
  | equals => ['=']

def drawn : List Button :=
  [clearEntry, clearResults, clearAll, key .opening, key .closing] ++
    Operator.all.map (fun o => key (.operator o)) ++
    [equals,
      key (.digit 7), key (.digit 8), key (.digit 9), delete,
      key (.digit 4), key (.digit 5), key (.digit 6), key (.operator .divide),
      key (.digit 1), key (.digit 2), key (.digit 3), key (.operator .times),
      key (.digit 0)]

/-- The `nth` button, from zero, among those drawn with this label. -/
def find? (label : Text) (nth : Nat) : Option Button :=
  (drawn.filter fun b => b.label == label)[nth]?

end Button

structure Panel where
  entry : Text := []
  result : Text := []
  error : Text := []
  steps : Steps := {}
  focusRequested : Bool := true
  deriving DecidableEq, Repr

namespace Panel

def clearEntry (p : Panel) : Panel := { p with entry := [], focusRequested := true }

def clearResults (p : Panel) : Panel :=
  { p with result := [], error := [], steps := {}, focusRequested := true }

def clearAll (p : Panel) : Panel := { p with entry := [] }.clearResults

/-- Shows an error. The last result stays in sight, its steps do not. -/
def showError (message : Text) (p : Panel) : Panel :=
  { p with error := message, steps := {}, focusRequested := true }

def showResult (result : Text) (steps : Steps) (p : Panel) : Panel :=
  { p with error := [], result := result, steps := steps, focusRequested := true }

def evaluate (p : Panel) : Logged Panel := do
  let s := Text.trim p.entry
  if s.isEmpty then return p.showError "Entrée vide".toList
  record ⟨.debug, .panel, "ui: évaluation de ".toList ++ Text.quoted s⟩
  match ← Calculation.solve s with
  | .ok solution => return p.showResult (Text.decimal solution.value.toInt) solution.steps
  | .error e => return p.showError e.message

def click (p : Panel) : Button → Logged Panel
  | .key k => return { p with entry := Entry.insert p.entry k, focusRequested := true }
  | .delete => return { p with entry := Entry.deleteLast p.entry, focusRequested := true }
  | .clearEntry => return p.clearEntry
  | .clearResults => return p.clearResults
  | .clearAll => return p.clearAll
  | .equals => p.evaluate

structure Frame where
  escape : Bool := false
  enter : Bool := false
  clicked? : Option Button := none
  deriving DecidableEq, Repr

def frame (p : Panel) (f : Frame) : Logged Panel := do
  let p := if f.escape then p.clearEntry else p
  let focused := p.focusRequested
  let p := { p with focusRequested := false }
  let p ← if f.enter && focused then p.evaluate else pure p
  match f.clicked? with
  | some b => p.click b
  | none => return p

inductive Action where
  | idle
  | click (b : Button)
  | escape
  | enter
  | replace (text : Text)
  | append (text : Text)
  deriving DecidableEq, Repr

/-- The pointer reaches a button in frames of its own, before the click. -/
def perform (p : Panel) : Action → Logged Panel
  | .idle => p.frame {}
  | .click b => do (← p.frame {}).frame { clicked? := some b }
  | .escape => p.frame { escape := true }
  | .enter => p.frame { enter := true }
  | .replace text => return { p with entry := text }
  | .append text => return { p with entry := p.entry ++ text }

def performAll (p : Panel) (actions : List Action) : Logged Panel := actions.foldlM perform p

def hint : Text := "Ex: 10-2*3+(4/2), 2^3^2, (7+1)/2".toList

def screen (p : Panel) : List Text :=
  let texts :=
    [title, "Entrée :".toList, if p.entry.isEmpty then hint else p.entry] ++
      Button.drawn.map Button.label ++
      [p.error, "Résultat :".toList, p.result, "Démarche".toList,
        "Jetons :".toList, p.steps.tokens, "RPN :".toList, p.steps.converted]
  texts.filter fun t => !t.isEmpty

end Panel

end IntegerCalculator
