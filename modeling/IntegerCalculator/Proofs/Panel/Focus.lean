import IntegerCalculator.Proofs.Panel.Step

/-! Frames in which nothing happens. Such a frame takes away the request for the focus and
nothing else, and of all that may follow only Enter asks for it: so an idle frame cannot
be seen, unless the next frame is the one of an Enter, which then does nothing. -/

namespace IntegerCalculator.Panel

/-- The panels look alike, whether or not the focus is asked for. -/
def Agree (p q : Panel) : Prop := p.entry = q.entry ∧ p.display = q.display

theorem agree_unfocused (p : Panel) : Agree p.unfocused p := ⟨rfl, rfl⟩

theorem unfocused_of_not_requested {p : Panel} (h : p.focusRequested = false) :
    p.unfocused = p := by
  rw [unfocused, ← h]

theorem perform_unfocused_of_draws {a : Action} (draws : a.drawsFrame = true) (other : a ≠ .enter)
    (p : Panel) : (p.unfocused.perform a).value = (p.perform a).value := by
  cases a with
  | idle | click | escape => rfl
  | enter => contradiction
  | replace | append => contradiction

theorem perform_unfocused_of_text {a : Action} (text : a.drawsFrame = false) (p : Panel) :
    (p.unfocused.perform a).value = (p.perform a).value.unfocused := by
  cases a with
  | replace | append => rfl
  | idle | click | escape | enter => contradiction

/-- The request for the focus matters to an Enter in the next frame only. -/
theorem agree_performAll_unfocused {actions : List Action}
    (next : actions.find? Action.drawsFrame ≠ some .enter) (p : Panel) :
    Agree (p.unfocused.performAll actions).value (p.performAll actions).value := by
  induction actions generalizing p with
  | nil => exact agree_unfocused p
  | cons a actions ih =>
    rw [performAll_cons, performAll_cons]
    cases draws : a.drawsFrame with
    | true =>
      have other : a ≠ .enter := by
        rintro rfl
        exact next rfl
      rw [perform_unfocused_of_draws draws other]
      exact ⟨rfl, rfl⟩
    | false =>
      rw [List.find?_cons_of_neg (by simp [draws])] at next
      rw [perform_unfocused_of_text draws]
      exact ih next (p.perform a).value

theorem performAll_unfocused_of_texts {texts : List Action}
    (typed : ∀ a ∈ texts, a.drawsFrame = false) (p : Panel) :
    (p.unfocused.performAll texts).value = (p.performAll texts).value.unfocused := by
  induction texts generalizing p with
  | nil => rfl
  | cons a texts ih =>
    rw [performAll_cons, performAll_cons, perform_unfocused_of_text (typed a List.mem_cons_self)]
    exact ih (fun b hb => typed b (List.mem_cons_of_mem a hb)) _

/-- An Enter in the first frame after an idle one does nothing. -/
theorem performAll_enter_of_unfocused {texts : List Action}
    (typed : ∀ a ∈ texts, a.drawsFrame = false) (p : Panel) (after : List Action) :
    (p.unfocused.performAll (texts ++ .enter :: after)).value =
      (p.unfocused.performAll (texts ++ after)).value := by
  rw [performAll_append, performAll_append, performAll_unfocused_of_texts typed, performAll_cons,
    perform_enter]
  rfl

theorem display_replace_enter (p : Panel) (text : Text) :
    (p.performAll [.replace text, .enter]).value.display =
      if p.focusRequested then p.display.evaluated text else p.display := by
  rw [performAll_cons, performAll_cons, performAll_nil, display_perform, focusRequested_perform]
  change (if p.focusRequested then Effect.evaluate else .keep).onDisplay p.display text = _
  split <;> rfl

theorem agree_performAll_unfocused_iff (p : Panel) :
    (∀ actions, Agree (p.unfocused.performAll actions).value (p.performAll actions).value) ↔
      p.focusRequested = false := by
  constructor
  · intro transparent
    cases asked : p.focusRequested with
    | false => rfl
    | true =>
      have same (text : Text) : p.display = p.display.evaluated text := by
        have seen := (transparent [.replace text, .enter]).2
        rwa [display_replace_enter, display_replace_enter, asked] at seen
      have quiet : p.display.error = [] := congrArg Display.error (same "1".toList)
      have complains : p.display.error = "Entrée vide".toList :=
        congrArg Display.error (same [])
      rw [quiet] at complains
      contradiction
  · intro taken actions
    rw [unfocused_of_not_requested taken]
    exact ⟨rfl, rfl⟩

theorem idle_frame_transparent_unless_enter_follows (before : List Action) :
    let run (actions : List Action) := (performAll {} actions).value
    (∀ after, after.find? Action.drawsFrame ≠ some .enter →
      Agree (run (before ++ .idle :: after)) (run (before ++ after))) ∧
    (∀ texts after, (∀ a ∈ texts, a.drawsFrame = false) →
      run (before ++ .idle :: (texts ++ .enter :: after)) =
        run (before ++ .idle :: (texts ++ after))) ∧
    ((∀ after, Agree (run (before ++ .idle :: after)) (run (before ++ after))) ↔
      (run before).focusRequested = false) := by
  intro run
  have idle (after : List Action) :
      run (before ++ .idle :: after) = ((run before).unfocused.performAll after).value := by
    rw [← perform_idle, ← performAll_cons]
    exact performAll_append {} before (.idle :: after)
  have none (after : List Action) : run (before ++ after) = ((run before).performAll after).value :=
    performAll_append _ before after
  refine ⟨fun after next => ?_, fun texts after typed => ?_, ?_⟩
  · rw [idle, none]
    exact agree_performAll_unfocused next _
  · rw [idle, idle]
    exact performAll_enter_of_unfocused typed _ after
  · simp only [idle, none]
    exact agree_performAll_unfocused_iff (run before)

theorem idle_frame_before_enter :
    let typed := Action.replace "1+2".toList
    (performAll {} [typed, .enter]).value.result = "3".toList ∧
      (performAll {} [typed, .idle, .enter]).value.result = [] := by
  decide +kernel

end IntegerCalculator.Panel
