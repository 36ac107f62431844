import IntegerCalculator.Proofs.Panel.Evaluation

/-! What a panel remembers of a whole run. Of all that was done, the display depends on the
entries that were evaluated since the results were last cleared, and on the latest of them:
the last one decides the error, and the last one with a value decides the result. -/

namespace IntegerCalculator.Panel

def effects (p : Panel) : List Action → List (Effect × Text)
  | [] => []
  | a :: as => (a.effect p.focusRequested, p.entry) :: effects (p.perform a).value as

def latest (es : List (Effect × Text)) : List Text :=
  ((es.reverse.takeWhile fun e => e.1 ≠ .clear).filter fun e => e.1 = .evaluate).map Prod.snd

theorem latest_concat_keep (es : List (Effect × Text)) (entry : Text) :
    latest (es ++ [(.keep, entry)]) = latest es := by
  simp [latest]

theorem latest_concat_clear (es : List (Effect × Text)) (entry : Text) :
    latest (es ++ [(.clear, entry)]) = [] := by
  simp [latest]

theorem latest_concat_evaluate (es : List (Effect × Text)) (entry : Text) :
    latest (es ++ [(.evaluate, entry)]) = entry :: latest es := by
  simp [latest]

theorem display_performAll (p : Panel) (actions : List Action) :
    (p.performAll actions).value.display =
      (p.effects actions).foldl (fun d e => e.1.onDisplay d e.2) p.display := by
  induction actions generalizing p with
  | nil => rfl
  | cons a actions ih =>
    rw [performAll_cons, ih, effects, List.foldl_cons, display_perform]

/-- From a blank display, evaluating what is remembered gives what a run gives. -/
theorem foldl_onDisplay_eq (es : List (Effect × Text)) :
    es.foldl (fun d e => e.1.onDisplay d e.2) {} =
      (latest es).foldr (fun entry d => d.evaluated entry) ({} : Display) := by
  -- By the last effect, since that is the one to decide what is forgotten.
  induction es using List.reverseRecOn with
  | nil => rfl
  | append_singleton es e ih =>
    obtain ⟨effect, entry⟩ := e
    rw [List.foldl_concat, ih]
    cases effect with
    | keep => rw [latest_concat_keep]; rfl
    | clear => rw [latest_concat_clear]; rfl
    | evaluate => rw [latest_concat_evaluate]; rfl

theorem error_foldr_evaluated (entries : List Text) :
    (entries.foldr (fun entry d => d.evaluated entry) ({} : Display)).error =
      (entries.head?.map complaint).getD [] := by
  cases entries with
  | nil => rfl
  | cons entry entries => exact Display.error_evaluated _ entry

theorem result_foldr_evaluated (entries : List Text) :
    (entries.foldr (fun entry d => d.evaluated entry) ({} : Display)).result =
      ((entries.findSome? fun entry => (Calculation.value (Text.trim entry)).toOption).map
        fun n => Text.decimal n.toInt).getD [] := by
  induction entries with
  | nil => rfl
  | cons entry entries ih =>
    rw [List.foldr_cons, Display.result_evaluated, List.findSome?_cons]
    cases Calculation.value (Text.trim entry) with
    | ok n => rfl
    | error e => exact ih

theorem entry_perform_of_evaluates {p : Panel} {a : Action}
    (evaluates : a.effect p.focusRequested = .evaluate) : (p.perform a).value.entry = p.entry := by
  rw [entry_perform]
  cases a with
  | click b =>
    cases b with
    | equals => rfl
    | key | delete | clearEntry | clearResults | clearAll => contradiction
  | enter => rfl
  | idle | escape | replace | append => contradiction

def Action.edits : Action → Bool
  | click (.key _) | click .delete | click .clearEntry | escape | replace _ | append _ => true
  | click .clearResults | click .clearAll | click .equals | idle | enter => false

theorem display_perform_of_edits {a : Action} (edits : a.edits = true) (p : Panel) :
    (p.perform a).value.display = p.display := by
  rw [display_perform]
  cases a with
  | click b =>
    cases b with
    | key | delete | clearEntry => rfl
    | clearResults | clearAll | equals => contradiction
  | escape | replace | append => rfl
  | idle | enter => contradiction

/-- The error is that of the last evaluation and the result that of the last success, as far
as neither was cleared; an evaluation leaves the entry alone, and an edit the display. -/
theorem display_remembers_evaluations (actions : List Action) :
    let p := (performAll {} actions).value
    let entries := latest (effects {} actions)
    p.result =
        ((entries.findSome? fun entry => (Calculation.value (Text.trim entry)).toOption).map
          fun n => Text.decimal n.toInt).getD [] ∧
      p.error = (entries.head?.map complaint).getD [] ∧
      (∀ (q : Panel) (a : Action), a.effect q.focusRequested = .evaluate →
        (q.perform a).value.entry = q.entry) ∧
      ∀ (q : Panel) (a : Action), a.edits = true → (q.perform a).value.display = q.display := by
  intro p entries
  have whole : p.display = entries.foldr (fun entry d => d.evaluated entry) {} :=
    (display_performAll {} actions).trans (foldl_onDisplay_eq _)
  refine ⟨?_, ?_, fun q a evaluates => entry_perform_of_evaluates evaluates,
    fun q a edits => display_perform_of_edits edits q⟩
  · exact (congrArg Display.result whole).trans (result_foldr_evaluated entries)
  · exact (congrArg Display.error whole).trans (error_foldr_evaluated entries)

theorem display_remembers_product :
    let actions : List Action := [.replace "6*7".toList, .enter, .append "/0".toList,
      .click .equals, .click .clearEntry, .idle, .enter]
    let p := (performAll {} actions).value
    latest (effects {} actions) = ["6*7/0".toList, "6*7".toList] ∧
      p.result = "42".toList ∧ p.error = "division par zéro".toList ∧
      Action.effect p.focusRequested (.click .equals) = .evaluate ∧
      (p.perform (.click .equals)).value.entry = p.entry ∧
      Action.edits (.click .delete) = true ∧
      (p.perform (.click .delete)).value.display = p.display := by
  intro actions p
  have entries : latest (effects {} actions) = ["6*7/0".toList, "6*7".toList] := by decide +kernel
  obtain ⟨result, error, evaluation, edit⟩ := display_remembers_evaluations actions
  rw [entries] at result error
  refine ⟨entries, result.trans (by decide +kernel), error.trans (by decide +kernel), rfl,
    evaluation p _ rfl, rfl, edit p _ rfl⟩

end IntegerCalculator.Panel
