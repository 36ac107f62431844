import IntegerCalculator.Panel

/-! What one action does to a panel. The entry depends on the entry alone, whether the
focus is asked for on that alone, and the display on the entry and the focus only through
its evaluation: every action keeps the display, clears it, or evaluates the entry. -/

namespace IntegerCalculator.Panel

structure Display where
  result : Text := []
  error : Text := []
  steps : Steps := {}
  deriving DecidableEq, Repr

def display (p : Panel) : Display := ⟨p.result, p.error, p.steps⟩

namespace Display

def answered (d : Display) : Except Failure Solution → Display
  | .ok solution => ⟨Text.decimal solution.value.toInt, [], solution.steps⟩
  | .error e => { d with error := e.message, steps := {} }

def evaluated (d : Display) (entry : Text) : Display :=
  if (Text.trim entry).isEmpty then { d with error := "Entrée vide".toList, steps := {} }
  else d.answered (Calculation.result (Text.trim entry))

theorem evaluated_of_visible {entry : Text} (visible : Text.trim entry ≠ []) (d : Display) :
    d.evaluated entry = d.answered (Calculation.result (Text.trim entry)) :=
  if_neg (by simpa using visible)

end Display

inductive Effect where
  | keep
  | clear
  | evaluate
  deriving DecidableEq, Repr

def Effect.onDisplay (d : Display) (entry : Text) : Effect → Display
  | keep => d
  | clear => {}
  | evaluate => d.evaluated entry

namespace Action

def drawsFrame : Action → Bool
  | replace _ | append _ => false
  | _ => true

def onEntry (entry : Text) : Action → Text
  | click (.key k) => Entry.insert entry k
  | click .delete => Entry.deleteLast entry
  | click .clearEntry | click .clearAll | escape => []
  | replace text => text
  | append text => entry ++ text
  | click .clearResults | click .equals | idle | enter => entry

def onFocus (focused : Bool) : Action → Bool
  | click _ => true
  | idle | escape => false
  | enter | replace _ | append _ => focused

def effect (focused : Bool) : Action → Effect
  | click .clearResults | click .clearAll => .clear
  | click .equals => .evaluate
  | enter => if focused then .evaluate else .keep
  | _ => .keep

end Action

def showing (p : Panel) (d : Display) : Panel := ⟨p.entry, d.result, d.error, d.steps, true⟩

theorem evaluate_value (p : Panel) :
    p.evaluate.value = p.showing (p.display.evaluated p.entry) := by
  rw [evaluate, Display.evaluated]
  split
  · rfl
  · simp only [Logged.bind_value, Calculation.result]
    cases (Calculation.solve (Text.trim p.entry)).value <;> rfl

def unfocused (p : Panel) : Panel := { p with focusRequested := false }

theorem perform_idle (p : Panel) : (p.perform .idle).value = p.unfocused := rfl

theorem perform_equals (p : Panel) :
    (p.perform (.click .equals)).value = p.showing (p.display.evaluated p.entry) :=
  evaluate_value p.unfocused

theorem perform_enter (p : Panel) :
    (p.perform .enter).value =
      if p.focusRequested then p.showing (p.display.evaluated p.entry) else p := by
  cases p with
  | mk entry result error steps focused =>
    cases focused with
    | false => rfl
    | true => exact evaluate_value _

/-- An action in full: what becomes of the entry, of the display and of the focus. -/
theorem perform_value (p : Panel) (a : Action) :
    (p.perform a).value =
      { p.showing ((a.effect p.focusRequested).onDisplay p.display p.entry) with
        entry := a.onEntry p.entry
        focusRequested := a.onFocus p.focusRequested } := by
  cases a with
  | idle | escape | replace | append => rfl
  | click b =>
    cases b with
    | equals => exact perform_equals p
    | key | delete | clearEntry | clearResults | clearAll => rfl
  | enter =>
    rw [perform_enter]
    cases p with
    | mk entry result error steps focused => cases focused <;> rfl

theorem entry_perform (p : Panel) (a : Action) :
    (p.perform a).value.entry = a.onEntry p.entry := by
  rw [perform_value]

theorem focusRequested_perform (p : Panel) (a : Action) :
    (p.perform a).value.focusRequested = a.onFocus p.focusRequested := by
  rw [perform_value]

theorem display_perform (p : Panel) (a : Action) :
    (p.perform a).value.display = (a.effect p.focusRequested).onDisplay p.display p.entry := by
  rw [perform_value]
  rfl

@[simp] theorem performAll_nil (p : Panel) : (p.performAll []).value = p := rfl

@[simp] theorem performAll_cons (p : Panel) (a : Action) (as : List Action) :
    (p.performAll (a :: as)).value = ((p.perform a).value.performAll as).value := rfl

theorem performAll_append (p : Panel) (as bs : List Action) :
    (p.performAll (as ++ bs)).value = ((p.performAll as).value.performAll bs).value := by
  induction as generalizing p with
  | nil => rfl
  | cons a as ih => exact ih (p.perform a).value

theorem performAll_induct {motive : Panel → Prop} {p : Panel} (start : motive p)
    (step : ∀ q a, motive q → motive (q.perform a).value) (as : List Action) :
    motive (p.performAll as).value := by
  induction as generalizing p with
  | nil => exact start
  | cons a as ih => exact ih (step p a start)

end IntegerCalculator.Panel
