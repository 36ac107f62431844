import IntegerCalculator.Proofs.Trim
import IntegerCalculator.Terminal

/-! A text as a line of the terminal. In UTF-8 only a line feed has the byte of a line
feed, and only a carriage return that of a carriage return; so a line is read as it was
typed, less one carriage return at its end, which is blank and changes no answer. -/

namespace IntegerCalculator

namespace Text

theorem encodeChar_of_ascii {c : Char} (ascii : c.toNat < 128) :
    String.utf8EncodeChar c = [UInt8.ofNat c.toNat] :=
  if_pos (Nat.le_of_lt_succ ascii)

theorem le_of_mem_encodeChar {c : Char} (beyond : 128 ≤ c.toNat) {b : UInt8}
    (h : b ∈ String.utf8EncodeChar c) : 128 ≤ b.toNat := by
  have several : ¬ c.val.toNat ≤ 127 := Nat.not_le_of_lt beyond
  rw [String.utf8EncodeChar, if_neg several] at h
  -- Each byte is a remainder with its top bit set.
  split at h
  · simp only [List.mem_cons, List.not_mem_nil, or_false] at h
    rcases h with rfl | rfl <;> simp only [UInt8.toNat_ofNat'] <;> omega
  · split at h
    · simp only [List.mem_cons, List.not_mem_nil, or_false] at h
      rcases h with rfl | rfl | rfl <;> simp only [UInt8.toNat_ofNat'] <;> omega
    · simp only [List.mem_cons, List.not_mem_nil, or_false] at h
      rcases h with rfl | rfl | rfl | rfl <;> simp only [UInt8.toNat_ofNat'] <;> omega

/-- A byte of ASCII stands for itself and nothing else. -/
theorem mem_encodeChar_iff {b : UInt8} (ascii : b.toNat < 128) (c : Char) :
    b ∈ String.utf8EncodeChar c ↔ c.toNat = b.toNat := by
  by_cases small : c.toNat < 128
  · rw [encodeChar_of_ascii small, List.mem_singleton, ← UInt8.toNat_inj, UInt8.toNat_ofNat']
    omega
  · constructor
    · intro h
      have large := le_of_mem_encodeChar (Nat.le_of_not_lt small) h
      omega
    · omega

theorem encode_ne_nil {s : Text} (h : s ≠ []) : encode s ≠ [] := by
  cases s with
  | nil => contradiction
  | cons c s => simp [encode]

theorem lineFeed_not_mem_encode {s : Text} (h : '\n' ∉ s) : 10 ∉ encode s := by
  intro found
  obtain ⟨c, member, byte⟩ := List.mem_flatMap.1 found
  have same := (mem_encodeChar_iff (by decide) c).1 byte
  have feed : c = '\n' := Char.toNat_inj.1 same
  exact h (feed ▸ member)

theorem getLast?_encode_ne {s : Text} (h : s.getLast? ≠ some '\r') :
    (encode s).getLast? ≠ some 13 := by
  rcases List.eq_nil_or_concat' s with rfl | ⟨t, c, rfl⟩
  · simp
  · rw [List.getLast?_concat] at h
    intro last
    rw [encode_append, List.getLast?_append_of_ne_nil _ (by simp [encode])] at last
    have byte : 13 ∈ String.utf8EncodeChar c := by
      simpa [encode] using List.mem_of_getLast? last
    have same := (mem_encodeChar_iff (by decide) c).1 byte
    exact h (congrArg some (Char.toNat_inj.1 same))

theorem encode_concat_return (s : Text) : encode (s ++ ['\r']) = encode s ++ [13] :=
  encode_append s ['\r']

theorem decode?_concat_return (bytes : Bytes) :
    decode? (bytes ++ [13]) = (decode? bytes).map fun s => s ++ ['\r'] := by
  cases read : decode? bytes with
  | some s =>
    rw [(decode?_eq_some_iff bytes s).1 read, ← encode_concat_return, decode?_encode]
    rfl
  | none =>
    rw [Option.map_none, ← Option.not_isSome_iff_eq_none, Option.isSome_iff_exists]
    rintro ⟨t, found⟩
    have whole := (decode?_eq_some_iff _ t).1 found
    have last : t.getLast? = some '\r' := by
      by_contra other
      refine getLast?_encode_ne other ?_
      rw [← whole, List.getLast?_concat]
    obtain ⟨s, rfl⟩ := List.getLast?_eq_some_iff.1 last
    rw [encode_concat_return] at whole
    rw [List.append_cancel_right whole, decode?_encode] at read
    contradiction

def withoutReturn (s : Text) : Text := if s.getLast? = some '\r' then s.dropLast else s

theorem trim_concat_of_blank {w : Char} (blank : isBlank w = true) (s : Text) :
    trim (s ++ [w]) = trim s := by
  rw [trim, List.dropWhile_append, trim]
  split
  next empty =>
    rw [List.isEmpty_iff.1 empty]
    simp [blank]
  next => rw [dropTrailing_concat, if_pos blank]

theorem trim_withoutReturn (s : Text) : trim (withoutReturn s) = trim s := by
  unfold withoutReturn
  split
  next last =>
    obtain ⟨t, rfl⟩ := List.getLast?_eq_some_iff.1 last
    rw [List.dropLast_concat, trim_concat_of_blank (by decide)]
  next => rfl

end Text

namespace Terminal

open Text (Bytes)

theorem lines_cons {b : UInt8} {rest : Bytes} (other : b ≠ 10)
    (apart : b = 13 → rest.head? ≠ some 10) :
    lines (b :: rest) =
      match lines rest with
      | [] => [[b]]
      | line :: more => (b :: line) :: more :=
  lines.eq_4 b rest other fun _ ret head => apart ret (congrArg List.head? head)

def withoutReturn (l : Bytes) : Bytes := if l.getLast? = some 13 then l.dropLast else l

theorem withoutReturn_concat (l : Bytes) : withoutReturn (l ++ [13]) = l := by
  rw [withoutReturn, List.getLast?_concat, if_pos rfl, List.dropLast_concat]

theorem lines_append_lineFeed {l : Bytes} (h : 10 ∉ l) (rest : Bytes) :
    lines (l ++ 10 :: rest) = withoutReturn l :: lines rest := by
  unfold withoutReturn
  induction l with
  | nil => rfl
  | cons b l ih =>
    obtain ⟨other, inner⟩ := List.ne_and_not_mem_of_not_mem_cons h
    have other : b ≠ 10 := fun same => other same.symm
    -- Only the last byte can be a return that goes with the line feed.
    cases l with
    | nil =>
      by_cases ret : b = 13
      · rw [ret]
        rfl
      · rw [List.singleton_append, lines_cons other fun same => absurd same ret]
        simp [ret]
    | cons d l =>
      have apart : (d :: l ++ 10 :: rest).head? ≠ some 10 := by
        intro head
        obtain rfl := Option.some.inj head
        exact inner List.mem_cons_self
      rw [List.cons_append, lines_cons other fun _ => apart, ih inner, List.getLast?_cons_cons,
        List.dropLast_cons_cons]
      change (b :: if (d :: l).getLast? = some 13 then (d :: l).dropLast else d :: l) :: _ = _
      split <;> rfl

theorem withoutReturn_encode (s : Text) :
    withoutReturn (Text.encode s) = Text.encode (Text.withoutReturn s) := by
  rw [Text.withoutReturn]
  by_cases last : s.getLast? = some '\r'
  · obtain ⟨t, rfl⟩ := List.getLast?_eq_some_iff.1 last
    rw [if_pos last, List.dropLast_concat, Text.encode_concat_return, withoutReturn_concat]
  · rw [if_neg last, withoutReturn, if_neg (Text.getLast?_encode_ne last)]

theorem lines_encode {s : Text} (oneLine : '\n' ∉ s) (rest : Bytes) :
    lines (Text.encode s ++ 10 :: rest) = Text.encode (Text.withoutReturn s) :: lines rest := by
  rw [lines_append_lineFeed (Text.lineFeed_not_mem_encode oneLine), withoutReturn_encode]

theorem lines_of_lineFeed_not_mem {l : Bytes} (h : 10 ∉ l) (nonempty : l ≠ []) :
    lines l = [l] := by
  induction l with
  | nil => contradiction
  | cons b l ih =>
    obtain ⟨other, inner⟩ := List.ne_and_not_mem_of_not_mem_cons h
    have apart : l.head? ≠ some 10 := fun head => inner (List.mem_of_mem_head? head)
    rw [lines_cons (fun same => other same.symm) fun _ => apart]
    cases l with
    | nil => rfl
    | cons d l => rw [ih inner (List.cons_ne_nil d l)]

/-- Bytes are a last line without a line feed, or a line before its line feed and what
follows. -/
theorem lines_induct {motive : Bytes → Prop} (last : ∀ l, 10 ∉ l → motive l)
    (line : ∀ l rest, 10 ∉ l → motive rest → motive (l ++ 10 :: rest)) (bytes : Bytes) :
    motive bytes := by
  by_cases h : 10 ∈ bytes
  · obtain ⟨l, rest, parts, before⟩ := List.eq_append_cons_of_mem h
    have shorter : rest.length < bytes.length := by
      rw [parts, List.length_append, List.length_cons]
      omega
    rw [parts]
    exact line l rest before (lines_induct last line rest)
  · exact last bytes h
termination_by bytes.length

/-- A text stands as a line where a line feed follows, or where the input ends behind it. -/
def EndsLine (s : Text) (rest : Bytes) : Prop := rest.head? = some 10 ∨ rest = [] ∧ s ≠ []

theorem exists_line {s : Text} (oneLine : '\n' ∉ s) {rest : Bytes} (ended : EndsLine s rest) :
    ∃ t, Text.trim t = Text.trim s ∧
      lines (Text.encode s ++ rest) = Text.encode t :: lines rest.tail := by
  rcases ended with head | ⟨rfl, nonempty⟩
  · obtain ⟨rest, rfl⟩ := List.head?_eq_some_iff.1 head
    exact ⟨Text.withoutReturn s, Text.trim_withoutReturn s, lines_encode oneLine rest⟩
  · refine ⟨s, rfl, ?_⟩
    rw [List.append_nil, lines_of_lineFeed_not_mem (Text.lineFeed_not_mem_encode oneLine)
      (Text.encode_ne_nil nonempty)]
    rfl

end Terminal

end IntegerCalculator
