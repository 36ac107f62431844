import IntegerCalculator.Terminal

/-! Delivery to an output that can run full. What fits arrives as it would without a limit,
and what does not is cut at the last byte that has room; nothing is delivered behind the
cut. Whether a text is written whole or in pieces makes no difference to either. -/

namespace IntegerCalculator.Terminal

open Text (Bytes encode)

/-- The same events, with each text written in any number of pieces. -/
inductive Pieces : List Event → List Event → Prop where
  | nil : Pieces [] []
  | texts {events whole : List Event} (parts : List Text) : Pieces events whole →
      Pieces (parts.map .write ++ events) (.write parts.flatten :: whole)
  | event {events whole : List Event} (e : Event) : Pieces events whole →
      Pieces (e :: events) (e :: whole)

theorem interruption?_deliver_ne (events : List Event) :
    (deliver events).interruption? ≠ some .fullOutput := by
  induction events with
  | nil => simp [deliver]
  | cons e events ih =>
    cases e with
    | write | record => exact ih
    | unreadable => simp [deliver]

theorem deliverWithin_of_fits {room : Nat} {events : List Event}
    (fits : (deliver events).written.length ≤ room) :
    deliverWithin room events = deliver events := by
  induction events generalizing room with
  | nil => rfl
  | cons e events ih =>
    cases e with
    | write text =>
      change (encode text ++ (deliver events).written).length ≤ room at fits
      rw [List.length_append] at fits
      have first : (encode text).length ≤ room := by omega
      have others : (deliver events).written.length ≤ room - (encode text).length := by omega
      rw [deliverWithin, if_pos first, ih others]
      rfl
    | record r => exact congrArg (Delivery.afterRecord r) (ih fits)
    | unreadable => rfl

theorem deliverWithin_of_exceeds {room : Nat} {events : List Event}
    (exceeds : room < (deliver events).written.length) :
    (deliverWithin room events).written = (deliver events).written.take room ∧
      (deliverWithin room events).interruption? = some .fullOutput ∧
      (deliverWithin room events).records <+: (deliver events).records := by
  induction events generalizing room with
  | nil => exact absurd exceeds (Nat.not_lt_zero room)
  | cons e events ih =>
    cases e with
    | write text =>
      change room < (encode text ++ (deliver events).written).length at exceeds
      rw [List.length_append] at exceeds
      -- Either the cut lies behind this text, or within it.
      by_cases first : (encode text).length ≤ room
      · have others : room - (encode text).length < (deliver events).written.length := by omega
        obtain ⟨written, full, records⟩ := ih others
        rw [deliverWithin, if_pos first]
        refine ⟨?_, full, records⟩
        change encode text ++ _ = (encode text ++ _).take room
        rw [written, List.take_append, List.take_of_length_le first]
      · rw [deliverWithin, if_neg first]
        refine ⟨?_, rfl, List.nil_prefix⟩
        change _ = (encode text ++ _).take room
        rw [List.take_append_of_le_length (Nat.le_of_not_le first)]
    | record r =>
      obtain ⟨written, full, records⟩ := ih exceeds
      exact ⟨written, full, List.cons_prefix_cons.2 ⟨rfl, records⟩⟩
    | unreadable => exact absurd exceeds (Nat.not_lt_zero room)

theorem deliverWithin_cons_congr {events others : List Event}
    (same : ∀ room, deliverWithin room events = deliverWithin room others) (e : Event)
    (room : Nat) : deliverWithin room (e :: events) = deliverWithin room (e :: others) := by
  cases e with
  | write text => simp only [deliverWithin, same]
  | record r => simp only [deliverWithin, same]
  | unreadable => rfl

theorem deliverWithin_write_append (s t : Text) (events : List Event) (room : Nat) :
    deliverWithin room (.write (s ++ t) :: events) =
      deliverWithin room (.write s :: .write t :: events) := by
  simp only [deliverWithin, Text.encode_append, List.length_append]
  -- The cut falls behind both parts, within the second, or within the first.
  by_cases first : (encode s).length ≤ room
  · rw [if_pos first]
    by_cases second : (encode t).length ≤ room - (encode s).length
    · have both : (encode s).length + (encode t).length ≤ room := by omega
      rw [if_pos both, if_pos second, Nat.sub_add_eq]
      simp [Delivery.afterWriting]
    · have both : ¬ (encode s).length + (encode t).length ≤ room := by omega
      rw [if_neg both, if_neg second, List.take_append, List.take_of_length_le first]
      rfl
  · have both : ¬ (encode s).length + (encode t).length ≤ room := by omega
    rw [if_neg first, if_neg both, List.take_append_of_le_length (Nat.le_of_not_le first)]

theorem deliverWithin_write_flatten (parts : List Text) (events : List Event) (room : Nat) :
    deliverWithin room (.write parts.flatten :: events) =
      deliverWithin room (parts.map .write ++ events) := by
  induction parts generalizing room with
  | nil => simp [deliverWithin, Delivery.afterWriting]
  | cons s parts ih =>
    rw [List.flatten_cons, deliverWithin_write_append]
    exact deliverWithin_cons_congr ih (.write s) room

theorem Pieces.refl (events : List Event) : Pieces events events := by
  induction events with
  | nil => exact .nil
  | cons e events ih => exact .event e ih

theorem Pieces.deliverWithin_eq {events whole : List Event} (pieces : Pieces events whole)
    (room : Nat) : deliverWithin room events = deliverWithin room whole := by
  induction pieces generalizing room with
  | nil => rfl
  | texts parts _ ih =>
    rw [← deliverWithin_write_flatten]
    exact deliverWithin_cons_congr ih _ room
  | event e _ ih => exact deliverWithin_cons_congr ih e room

theorem Pieces.deliver_eq {events whole : List Event} (pieces : Pieces events whole) :
    deliver events = deliver whole := by
  have events_fit := Nat.le_max_left (deliver events).written.length (deliver whole).written.length
  have whole_fits := Nat.le_max_right (deliver events).written.length (deliver whole).written.length
  rw [← deliverWithin_of_fits events_fit, pieces.deliverWithin_eq, deliverWithin_of_fits whole_fits]

/-- A session that fits ends as it would without a limit. One that does not is cut at the
first byte without room, however it would have ended. -/
theorem full_output_cuts_session (input : Bytes) (room : Nat) :
    let out := deliver (session input)
    let cut := deliverWithin room (session input)
    out.interruption? ≠ some .fullOutput ∧
    (out.written.length ≤ room → cut = out) ∧
    (room < out.written.length →
      cut.written = out.written.take room ∧ cut.interruption? = some .fullOutput ∧
        cut.records <+: out.records) ∧
    ∀ events, Pieces events (session input) →
      deliver events = out ∧ deliverWithin room events = cut :=
  ⟨interruption?_deliver_ne _, deliverWithin_of_fits, deliverWithin_of_exceeds,
    fun _ pieces => ⟨pieces.deliver_eq, pieces.deliverWithin_eq room⟩⟩

theorem full_output_cuts_session_before_unreadable :
    let input := encode "7/2\n".toList ++ [0xFF]
    let out := deliver (session input)
    let fragments := [manual.take 30, manual.drop 30].map .write ++ exchanges (lines input)
    out.interruption? = some .unreadableInput ∧ out.written.length = 321 ∧
      deliverWithin 321 (session input) = out ∧
      (deliverWithin 304 (session input)).written = encode (manual ++ prompt ++ ['3']) ∧
      (deliverWithin 304 (session input)).interruption? = some .fullOutput ∧
      deliverWithin 304 fragments = deliverWithin 304 (session input) := by
  intro input out fragments
  have length : out.written.length = 321 := by decide +kernel
  have pieces : Pieces fragments (session input) := by
    have joined : [manual.take 30, manual.drop 30].flatten = manual := by simp
    have parts := Pieces.texts [manual.take 30, manual.drop 30] (.refl (exchanges (lines input)))
    rwa [joined] at parts
  obtain ⟨-, fits, -, -⟩ := full_output_cuts_session input 321
  obtain ⟨-, -, exceeds, fragmented⟩ := full_output_cuts_session input 304
  obtain ⟨written, full, -⟩ := exceeds (by rw [length]; decide)
  exact ⟨by decide +kernel, length, fits (Nat.le_of_eq length), written.trans (by decide +kernel),
    full, (fragmented fragments pieces).2⟩

end IntegerCalculator.Terminal
