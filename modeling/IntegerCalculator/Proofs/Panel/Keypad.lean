import IntegerCalculator.Proofs.Calculation.Solution
import IntegerCalculator.Proofs.Panel.Entry
import IntegerCalculator.Proofs.Panel.Step
import IntegerCalculator.Proofs.Trim

/-! The keypad computes what was pressed. The characters of the keys that were pressed and
not taken back are the entry without its spaces, whatever else was done to the panel, and
the equals key evaluates the entry as it would evaluate them. -/

namespace IntegerCalculator

theorem Calculation.result_trim_of_laid {s : Text} (h : Entry.Laid s) :
    result (Text.trim s) = result (Text.withoutBlanks s) := by
  have clean : Alphabet.Clean (Text.withoutBlanks s) :=
    fun c hc => h.clean c (List.mem_of_mem_filter hc)
  refine result_of_same (Alphabet.clean_trim h.clean) clean ?_ ?_
  · rw [Text.withoutBlanks_trim]
    simp [Text.withoutBlanks]
  · rw [Token.ofText_trim, h.ofText_withoutBlanks]

namespace Panel

/-- The characters of the keys that were pressed and not taken back. -/
def Action.onKeys (keys : Text) : Action → Text
  | click (.key k) => keys ++ [k.character]
  | click .delete => keys.dropLast
  | click .clearEntry | click .clearAll | escape => []
  | _ => keys

theorem Action.laid_onEntry {entry : Text} (h : Entry.Laid entry) {a : Action}
    (keypad : a.drawsFrame = true) :
    Entry.Laid (a.onEntry entry) ∧
      Text.withoutBlanks (a.onEntry entry) = a.onKeys (Text.withoutBlanks entry) := by
  cases a with
  | replace | append => contradiction
  | idle | enter => exact ⟨h, rfl⟩
  | escape => exact ⟨.empty, rfl⟩
  | click b =>
    cases b with
    | key k => exact ⟨h.insert k, Entry.withoutBlanks_insert entry k⟩
    | delete => exact h.deleteLast
    | clearEntry | clearAll => exact ⟨.empty, rfl⟩
    | clearResults | equals => exact ⟨h, rfl⟩

theorem laid_performAll {p : Panel} (h : Entry.Laid p.entry) {actions : List Action}
    (keypad : ∀ a ∈ actions, a.drawsFrame = true) :
    Entry.Laid (p.performAll actions).value.entry ∧
      Text.withoutBlanks (p.performAll actions).value.entry =
        actions.foldl Action.onKeys (Text.withoutBlanks p.entry) := by
  induction actions generalizing p with
  | nil => exact ⟨h, rfl⟩
  | cons a actions ih =>
    obtain ⟨laid, keys⟩ := Action.laid_onEntry h (keypad a List.mem_cons_self)
    rw [← entry_perform] at laid keys
    rw [performAll_cons, List.foldl_cons, ← keys]
    exact ih laid fun b hb => keypad b (List.mem_cons_of_mem a hb)

theorem evaluated_of_laid {entry : Text} (h : Entry.Laid entry) (d : Display)
    (pressed : Text.withoutBlanks entry ≠ []) :
    d.evaluated entry = d.answered (Calculation.result (Text.withoutBlanks entry)) := by
  have visible : Text.trim entry ≠ [] := fun empty => pressed ((Text.trim_eq_nil_iff entry).1 empty)
  rw [Display.evaluated_of_visible visible, Calculation.result_trim_of_laid h]

theorem evaluated_of_blank {entry : Text} (d : Display) (blank : Text.withoutBlanks entry = []) :
    d.evaluated entry = { d with error := "Entrée vide".toList, steps := {} } := by
  rw [Display.evaluated, (Text.trim_eq_nil_iff entry).2 blank]
  rfl

theorem keypad_computes_keys (actions : List Action)
    (keypad : ∀ a ∈ actions, a.drawsFrame = true) :
    let p := (performAll {} actions).value
    let keys := actions.foldl Action.onKeys []
    let q := (p.perform (.click .equals)).value
    Text.withoutBlanks p.entry = keys ∧ Token.ofText p.entry = Token.ofText keys ∧
      (keys = [] → q.error = "Entrée vide".toList) ∧
      (keys ≠ [] →
        (∀ answer, Calculation.result keys = .ok answer →
          q.result = Text.decimal answer.value.toInt ∧ q.error = [] ∧ q.steps = answer.steps) ∧
        ∀ e, Calculation.result keys = .error e →
          q.result = p.result ∧ q.error = e.message ∧ q.steps = {}) := by
  intro p keys q
  obtain ⟨laid, bare⟩ : Entry.Laid p.entry ∧ Text.withoutBlanks p.entry = keys :=
    laid_performAll .empty keypad
  have equals : q = p.showing (p.display.evaluated p.entry) := perform_equals p
  rw [equals]
  refine ⟨bare, bare ▸ laid.ofText_withoutBlanks, fun blank => ?_, fun pressed => ?_⟩
  · rw [evaluated_of_blank _ (bare.trans blank)]
    rfl
  · rw [← bare] at pressed
    rw [evaluated_of_laid laid _ pressed, bare]
    refine ⟨fun answer computed => ?_, fun e failed => ?_⟩
    · rw [computed]
      exact ⟨rfl, rfl, rfl⟩
    · rw [failed]
      exact ⟨rfl, rfl, rfl⟩

theorem keypad_computes_keys_after_delete :
    let press (k : Key) := Action.click (.key k)
    let actions := [press (.digit 1), press (.operator .plus), .click .delete, .enter,
      press (.digit 2), press (.operator .power), .idle, press .opening, press (.digit 2),
      press .closing]
    (∀ a ∈ actions, a.drawsFrame = true) ∧
      (performAll {} actions).value.entry = "12 ^ (2)".toList ∧
      Text.withoutBlanks (performAll {} actions).value.entry = "12^(2)".toList ∧
      Token.ofText (performAll {} actions).value.entry = Token.ofText "12^(2)".toList ∧
      ((performAll {} actions).value.perform (.click .equals)).value.result = "144".toList := by
  intro press actions
  have keypad : ∀ a ∈ actions, a.drawsFrame = true := by decide
  have keys : actions.foldl Action.onKeys [] = "12^(2)".toList := by decide
  have computed : Calculation.result "12^(2)".toList =
      .ok ⟨144, "12 ^ ( 2 )".toList, "12 2 ^".toList⟩ := by decide +kernel
  have digits : Text.decimal (144 : Int64).toInt = "144".toList := by decide
  obtain ⟨bare, tokens, -, pressed⟩ := keypad_computes_keys actions keypad
  rw [keys] at bare tokens pressed
  have shown := ((pressed (by decide)).1 _ computed).1
  exact ⟨keypad, by decide +kernel, bare, tokens, shown.trans digits⟩

end Panel

end IntegerCalculator
