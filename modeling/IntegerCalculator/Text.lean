/-! Texts are lists of Unicode scalar values, so that a position counts
characters. Tables of character properties are lists of code point ranges,
both ends included. Blanks are the characters of the Unicode property
White_Space; they are left out of a text everywhere, or at both ends. Numbers
are written in decimal notation without leading zeros, with a minus sign when
they are negative, and a run of digits is read with any number of leading
zeros. Bytes enter only where a text is read or written, in UTF-8, and decoding
accepts exactly what encoding produces. -/

namespace IntegerCalculator

abbrev Text := List Char

namespace Text

def inRanges (ranges : List (Nat × Nat)) (c : Char) : Bool :=
  ranges.any fun r => r.1 ≤ c.toNat && c.toNat ≤ r.2

theorem inRanges_iff (ranges : List (Nat × Nat)) (c : Char) :
    inRanges ranges c = true ↔ ∃ r ∈ ranges, r.1 ≤ c.toNat ∧ c.toNat ≤ r.2 := by
  simp [inRanges]

def dropTrailing (p : Char → Bool) (s : Text) : Text :=
  (s.reverse.dropWhile p).reverse

@[simp] theorem dropTrailing_nil (p : Char → Bool) : dropTrailing p [] = [] := rfl

theorem dropTrailing_concat (p : Char → Bool) (s : Text) (c : Char) :
    dropTrailing p (s ++ [c]) = if p c then dropTrailing p s else s ++ [c] := by
  by_cases h : p c <;> simp [dropTrailing, h]

def containsWord (word : Text) : Text → Bool
  | [] => word.isEmpty
  | c :: s => word.isPrefixOf (c :: s) || containsWord word s

theorem containsWord_iff (word s : Text) : containsWord word s = true ↔ word <:+: s := by
  induction s with
  | nil => simp [containsWord]
  | cons c s ih => simp [containsWord, ih, List.infix_cons_iff]

def blankRanges : List (Nat × Nat) :=
  [(0x09, 0x0D), (0x20, 0x20), (0x85, 0x85), (0xA0, 0xA0), (0x1680, 0x1680),
    (0x2000, 0x200A), (0x2028, 0x2029), (0x202F, 0x202F), (0x205F, 0x205F), (0x3000, 0x3000)]

def isBlank (c : Char) : Bool := inRanges blankRanges c

def withoutBlanks (s : Text) : Text := s.filter fun c => !isBlank c

@[simp] theorem withoutBlanks_nil : withoutBlanks [] = [] := rfl

@[simp] theorem withoutBlanks_append (s t : Text) :
    withoutBlanks (s ++ t) = withoutBlanks s ++ withoutBlanks t := by
  simp [withoutBlanks]

def trim (s : Text) : Text := dropTrailing isBlank (s.dropWhile isBlank)

@[simp] theorem trim_nil : trim [] = [] := rfl

def decimal : Int → Text
  | .ofNat n => Nat.toDigits 10 n
  | .negSucc n => '-' :: Nat.toDigits 10 (n + 1)

@[simp] theorem decimal_natCast (n : Nat) : decimal (n : Int) = Nat.toDigits 10 n := rfl

def digitsValue (digits : Text) : Nat := Nat.ofDigitChars 10 digits 0

@[simp] theorem digitsValue_toDigits (n : Nat) : digitsValue (Nat.toDigits 10 n) = n :=
  Nat.ofDigitChars_toDigits (by decide) (by decide)

theorem digitsValue_replicate_append (k : Nat) (digits : Text) :
    digitsValue (List.replicate k '0' ++ digits) = digitsValue digits := by
  induction k with
  | zero => rfl
  | succ k ih =>
    rw [List.replicate_succ, List.cons_append, digitsValue, Nat.ofDigitChars_cons]
    exact ih

theorem digitsValue_le_append (s t : Text) :
    digitsValue s ≤ digitsValue (s ++ t) ∧ digitsValue t ≤ digitsValue (s ++ t) := by
  simp only [digitsValue]
  rw [Nat.ofDigitChars_append, Nat.ofDigitChars_eq_ofDigitChars_zero (l := t)]
  have scaled := Nat.le_mul_of_pos_left (Nat.ofDigitChars 10 s 0)
    (Nat.pow_pos (n := t.length) (show 0 < 10 by decide))
  omega

theorem decimal_natCast_inj {m n : Nat} (h : decimal m = decimal n) : m = n := by
  rw [← digitsValue_toDigits m, ← digitsValue_toDigits n]
  exact congrArg digitsValue h

theorem minus_not_mem_decimal (n : Nat) : '-' ∉ decimal n := by
  intro member
  have digit : '-'.isDigit = true := Nat.isDigit_of_mem_toDigits (by decide) (by decide) member
  contradiction

theorem decimal_inj {m n : Int} (h : decimal m = decimal n) : m = n := by
  cases m with
  | ofNat m =>
    cases n with
    | ofNat n => exact congrArg Int.ofNat (decimal_natCast_inj h)
    | negSucc n =>
      have minus : '-' ∈ decimal (m : Int) := h.symm ▸ List.mem_cons_self
      exact absurd minus (minus_not_mem_decimal m)
  | negSucc m =>
    cases n with
    | ofNat n =>
      have minus : '-' ∈ decimal (n : Int) := h ▸ List.mem_cons_self
      exact absurd minus (minus_not_mem_decimal n)
    | negSucc n =>
      have next : m + 1 = n + 1 := decimal_natCast_inj (List.cons.inj h).2
      exact congrArg Int.negSucc (Nat.succ.inj next)

theorem exists_decimal_cons (n : Int) :
    ∃ c s, decimal n = c :: s ∧ (c = '-' ∨ c.isDigit = true) := by
  cases n with
  | ofNat n =>
    obtain ⟨c, s, digits⟩ := List.exists_cons_of_ne_nil (Nat.toDigits_ne_nil (b := 10) (n := n))
    have member : c ∈ Nat.toDigits 10 n := digits ▸ List.mem_cons_self
    exact ⟨c, s, digits, .inr (Nat.isDigit_of_mem_toDigits (by decide) (by decide) member)⟩
  | negSucc n => exact ⟨'-', _, rfl, .inl rfl⟩

abbrev Bytes := List UInt8

def encode (s : Text) : Bytes := s.flatMap String.utf8EncodeChar

def decode? (bytes : Bytes) : Option Text :=
  (String.fromUTF8? bytes.toByteArray).map String.toList

@[simp] theorem encode_nil : encode [] = [] := rfl

@[simp] theorem encode_append (s t : Text) : encode (s ++ t) = encode s ++ encode t := by
  simp [encode]

theorem toByteArray_encode (s : Text) : (encode s).toByteArray = (String.ofList s).toByteArray :=
  String.toByteArray_ofList.symm

theorem decode?_eq_some_iff (bytes : Bytes) (s : Text) :
    decode? bytes = some s ↔ bytes = encode s := by
  have inj {a b : Bytes} (h : a.toByteArray = b.toByteArray) : a = b := by
    have data := congrArg (fun x => x.data.toList) h
    simpa using data
  have eq_iff (h : bytes.toByteArray.IsValidUTF8) :
      (String.fromUTF8 bytes.toByteArray h).toList = s ↔ bytes = encode s := by
    constructor
    · rintro rfl
      apply inj
      rw [toByteArray_encode, String.ofList_toList]
      rfl
    · rintro rfl
      have e : String.fromUTF8 (encode s).toByteArray h = String.ofList s := by
        rw [← String.toByteArray_inj, ← toByteArray_encode]
        rfl
      rw [e, String.toList_ofList]
  unfold decode? String.fromUTF8?
  split
  next h => simp [eq_iff h]
  next h =>
    simp only [Option.map_none, reduceCtorEq, false_iff]
    rintro rfl
    exact h (toByteArray_encode s ▸ (String.ofList s).isValidUTF8)

@[simp] theorem decode?_encode (s : Text) : decode? (encode s) = some s :=
  (decode?_eq_some_iff _ _).2 rfl

end Text

end IntegerCalculator
