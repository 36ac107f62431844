import IntegerCalculator.Proofs.Bracket
import IntegerCalculator.Proofs.Lexeme
import IntegerCalculator.Token

/-! Reading the tokens of a text. Of a clean text every mark is a token, so reading
it can only fail at a numeral beyond 64 bits; where it succeeds, the brackets among
the tokens are those of the text. A number in decimal notation reads as itself. -/

namespace IntegerCalculator

namespace Token

/-- Some number of the text is too large for 64 bits. -/
def Oversized (s : Text) : Prop :=
  ∃ digits, Lexeme.DigitRun s digits ∧ 9223372036854775807 < Text.digitsValue digits

def bracket? : Token → Option Char
  | opening => some '('
  | closing => some ')'
  | _ => none

theorem ofMark?_of_permitted {c : Char} (h : c ∈ Alphabet.characters) (hd : c.isDigit = false) :
    ∃ t, ofMark? c = some t := by
  have all : Alphabet.characters.all (fun c => c.isDigit || (ofMark? c).isSome) = true := by decide
  have read := List.all_eq_true.1 all c h
  rw [hd, Bool.false_or] at read
  exact Option.isSome_iff_exists.1 read

theorem mem_characters_of_ofMark? {c : Char} {t : Token} (h : ofMark? c = some t) :
    c ∈ Alphabet.characters := by
  unfold ofMark? at h
  split at h
  next opened =>
    rw [opened]
    decide
  next =>
    split at h
    next closed =>
      rw [closed]
      decide
    next =>
      obtain ⟨o, symbol, -⟩ := Option.map_eq_some_iff.1 h
      rw [← (Operator.ofSymbol?_eq_some_iff c o).1 symbol]
      cases o <;> decide

theorem literal_of_small {digits : Text} (h : Text.digitsValue digits ≤ 9223372036854775807) :
    ∃ n, literal digits = .ok (.number n) := by
  have fits : Arithmetic.Fits (Text.digitsValue digits) := by
    unfold Arithmetic.Fits
    omega
  refine ⟨Int64.ofInt (Text.digitsValue digits), ?_⟩
  rw [literal, Arithmetic.fit?, if_pos fits]

theorem literal_of_large {digits : Text} (h : 9223372036854775807 < Text.digitsValue digits) :
    literal digits = .error .overflow := by
  have large : ¬ Arithmetic.Fits (Text.digitsValue digits) := by
    unfold Arithmetic.Fits
    omega
  rw [literal, Arithmetic.fit?, if_neg large]

theorem ofLexemes_cons_ok {l : Lexeme} {ts : List Token} (h : ofLexeme l = .ok ts)
    (ls : List Lexeme) : ofLexemes (l :: ls) = (ofLexemes ls).map (ts ++ ·) := by
  simp only [ofLexemes, List.mapM_cons, h]
  cases ls.mapM ofLexeme <;> rfl

theorem ofLexemes_cons_error {l : Lexeme} {e : Failure} (h : ofLexeme l = .error e)
    (ls : List Lexeme) : ofLexemes (l :: ls) = .error e := by
  simp only [ofLexemes, List.mapM_cons, h]
  rfl

theorem ofLexemes_cons_eq_ok_iff (l : Lexeme) (ls : List Lexeme) (ts : List Token) :
    ofLexemes (l :: ls) = .ok ts ↔
      ∃ us vs, ofLexeme l = .ok us ∧ ofLexemes ls = .ok vs ∧ us ++ vs = ts := by
  cases first : ofLexeme l with
  | error e => simp [ofLexemes_cons_error first]
  | ok us =>
    rw [ofLexemes_cons_ok first]
    cases ofLexemes ls <;> simp [Except.map]

theorem exists_of_mem_lexemes {ls : List Lexeme} {ts : List Token} (h : ofLexemes ls = .ok ts)
    {l : Lexeme} (hl : l ∈ ls) : ∃ us, ofLexeme l = .ok us := by
  induction ls generalizing ts with
  | nil => simp at hl
  | cons m ls ih =>
    obtain ⟨us, vs, first, rest, rfl⟩ := (ofLexemes_cons_eq_ok_iff m ls ts).1 h
    rcases List.mem_cons.1 hl with rfl | later
    · exact ⟨us, first⟩
    · exact ih rest later

theorem mem_ofLexemes_iff {ls : List Lexeme} {ts : List Token} (h : ofLexemes ls = .ok ts)
    (t : Token) : t ∈ ts ↔ ∃ l ∈ ls, ∃ us, ofLexeme l = .ok us ∧ t ∈ us := by
  induction ls generalizing ts with
  | nil =>
    obtain rfl := Except.ok.inj h
    simp
  | cons l ls ih =>
    obtain ⟨us, vs, first, rest, rfl⟩ := (ofLexemes_cons_eq_ok_iff l ls ts).1 h
    simp [ih rest, first]

theorem ofLexeme_of_clean {s : Text} (clean : Alphabet.Clean s) {l : Lexeme}
    (hl : l ∈ Lexeme.ofText s) :
    (∃ ts, ofLexeme l = .ok ts) ∨ (Oversized s ∧ ofLexeme l = .error .overflow) := by
  cases l with
  | blank => exact .inl ⟨[], rfl⟩
  | numeral digits =>
    by_cases large : 9223372036854775807 < Text.digitsValue digits
    · refine .inr ⟨⟨digits, (Lexeme.numeral_mem_iff s digits).1 hl, large⟩, ?_⟩
      rw [ofLexeme, literal_of_large large]
      rfl
    · obtain ⟨n, read⟩ := literal_of_small (Nat.le_of_not_lt large)
      refine .inl ⟨[.number n], ?_⟩
      rw [ofLexeme, read]
      rfl
  | mark c =>
    obtain ⟨member, notBlank, notDigit⟩ := Lexeme.mem_of_mark_mem hl
    have permitted : c ∈ Alphabet.characters := by
      by_contra outside
      exact clean c member ⟨notBlank, outside⟩
    obtain ⟨t, read⟩ := ofMark?_of_permitted permitted notDigit
    exact .inl ⟨[t], by rw [ofLexeme, read]⟩

theorem ofLexemes_of_all_ok {ls : List Lexeme} (h : ∀ l ∈ ls, ∃ ts, ofLexeme l = .ok ts) :
    ∃ ts, ofLexemes ls = .ok ts := by
  induction ls with
  | nil => exact ⟨[], rfl⟩
  | cons l ls ih =>
    obtain ⟨ts, first⟩ := h l List.mem_cons_self
    obtain ⟨us, rest⟩ := ih fun m hm => h m (List.mem_cons_of_mem l hm)
    exact ⟨ts ++ us, by rw [ofLexemes_cons_ok first, rest]; rfl⟩

/-- When all faults are alike it does not matter which comes first. -/
theorem ofLexemes_of_mem_error {ls : List Lexeme} {e : Failure}
    (alike : ∀ l ∈ ls, (∃ ts, ofLexeme l = .ok ts) ∨ ofLexeme l = .error e) {l : Lexeme}
    (hl : l ∈ ls) (h : ofLexeme l = .error e) : ofLexemes ls = .error e := by
  induction ls with
  | nil => simp at hl
  | cons m ls ih =>
    rcases alike m List.mem_cons_self with ⟨ts, first⟩ | first
    · have later : l ∈ ls := by
        rcases List.mem_cons.1 hl with rfl | later
        · rw [h] at first
          contradiction
        · exact later
      rw [ofLexemes_cons_ok first, ih (fun k hk => alike k (List.mem_cons_of_mem m hk)) later]
      rfl
    · exact ofLexemes_cons_error first ls

theorem ofText_of_small {s : Text} (clean : Alphabet.Clean s) (small : ¬ Oversized s) :
    ∃ ts, ofText s = .ok ts :=
  ofLexemes_of_all_ok fun _ hl => (ofLexeme_of_clean clean hl).resolve_right fun h => small h.1

theorem ofText_of_oversized {s : Text} (clean : Alphabet.Clean s) (large : Oversized s) :
    ofText s = .error .overflow := by
  obtain ⟨digits, run, value⟩ := large
  apply ofLexemes_of_mem_error (fun l hl => (ofLexeme_of_clean clean hl).imp_right And.right)
    ((Lexeme.numeral_mem_iff s digits).2 run)
  rw [ofLexeme, literal_of_large value]
  rfl

def bracketOf : Lexeme → Option Char
  | .mark c => if Bracket.isBracket c then some c else none
  | _ => none

theorem bracket?_ofMark? {c : Char} {t : Token} (h : ofMark? c = some t) :
    bracket? t = bracketOf (.mark c) := by
  rcases Bracket.isBracket_cases c with rfl | rfl | other
  · obtain rfl := Option.some.inj h
    rfl
  · obtain rfl := Option.some.inj h
    rfl
  · have symbol : (Operator.ofSymbol? c).map operator = some t := by
      simp only [Bracket.isBracket, Bool.or_eq_false_iff, beq_eq_false_iff_ne] at other
      rwa [ofMark?, if_neg other.1, if_neg other.2] at h
    obtain ⟨o, -, rfl⟩ := Option.map_eq_some_iff.1 symbol
    rw [bracketOf, other]
    rfl

theorem bracketOf_mark_eq_none {c : Char} (h : Bracket.isBracket c = false) :
    bracketOf (.mark c) = none := by
  simp [bracketOf, h]

theorem filterMap_bracketOf_attach (c : Char) (rest : List Lexeme) :
    (Lexeme.attach c rest).filterMap bracketOf =
      (bracketOf (.mark c)).toList ++ rest.filterMap bracketOf := by
  cases hb : Text.isBlank c with
  | true =>
    rw [Lexeme.attach_of_blank hb, bracketOf_mark_eq_none (Bracket.not_isBracket_of_isBlank hb)]
    rfl
  | false =>
    cases hd : c.isDigit with
    | false =>
      rw [Lexeme.attach_of_mark hb hd, List.filterMap_cons]
      cases bracketOf (.mark c) <;> rfl
    | true =>
      rw [bracketOf_mark_eq_none (Bracket.not_isBracket_of_isDigit hd)]
      cases rest with
      | nil =>
        rw [Lexeme.attach_of_digit hd (by simp)]
        rfl
      | cons l rest =>
        cases l with
        | numeral digits =>
          rw [Lexeme.attach_of_digit_numeral hd]
          rfl
        | blank | mark =>
          rw [Lexeme.attach_of_digit hd (by simp)]
          rfl

theorem filterMap_bracketOf (s : Text) :
    (Lexeme.ofText s).filterMap bracketOf = s.filter Bracket.isBracket := by
  induction s with
  | nil => rfl
  | cons c s ih =>
    rw [Lexeme.ofText_cons, filterMap_bracketOf_attach, ih]
    cases h : Bracket.isBracket c <;> simp [bracketOf, h]

theorem filterMap_bracket?_ofLexeme {l : Lexeme} {ts : List Token} (h : ofLexeme l = .ok ts) :
    ts.filterMap bracket? = (bracketOf l).toList := by
  cases l with
  | blank =>
    obtain rfl := Except.ok.inj h
    rfl
  | numeral digits =>
    rw [ofLexeme, literal] at h
    cases read : Arithmetic.fit? (Text.digitsValue digits) with
    | none => simp [read, bind, Except.bind] at h
    | some n =>
      simp only [read, bind, Except.bind, pure, Except.pure, Except.ok.injEq] at h
      rw [← h]
      rfl
  | mark c =>
    rw [ofLexeme] at h
    cases read : ofMark? c with
    | none => simp [read] at h
    | some t =>
      simp only [read, Except.ok.injEq] at h
      rw [← h, ← bracket?_ofMark? read]
      cases bracketed : bracket? t <;> simp [bracketed]

theorem filterMap_bracket?_ofLexemes {ls : List Lexeme} {ts : List Token}
    (h : ofLexemes ls = .ok ts) : ts.filterMap bracket? = ls.filterMap bracketOf := by
  induction ls generalizing ts with
  | nil =>
    obtain rfl := Except.ok.inj h
    rfl
  | cons l ls ih =>
    obtain ⟨us, vs, first, rest, rfl⟩ := (ofLexemes_cons_eq_ok_iff l ls ts).1 h
    rw [List.filterMap_append, filterMap_bracket?_ofLexeme first, ih rest, List.filterMap_cons]
    cases bracketOf l <;> rfl

theorem filterMap_bracket? {s : Text} {ts : List Token} (h : ofText s = .ok ts) :
    ts.filterMap bracket? = s.filter Bracket.isBracket :=
  (filterMap_bracket?_ofLexemes h).trans (filterMap_bracketOf s)

theorem ofText_digits {digits : Text} (nonempty : digits ≠ [])
    (all : ∀ c ∈ digits, c.isDigit = true) :
    ofText digits = (literal digits).map fun t => [t] := by
  rw [ofText, Lexeme.ofText_digits nonempty all]
  cases h : literal digits with
  | error e =>
    have read : ofLexeme (.numeral digits) = .error e := by rw [ofLexeme, h]; rfl
    exact ofLexemes_cons_error read []
  | ok t =>
    have read : ofLexeme (.numeral digits) = .ok [t] := by rw [ofLexeme, h]; rfl
    exact ofLexemes_cons_ok read []

theorem ofText_digits_eq_ok_iff {digits : Text} (nonempty : digits ≠ [])
    (all : ∀ c ∈ digits, c.isDigit = true) (ts : List Token) :
    ofText digits = .ok ts ↔
      ∃ n : Int64, n.toInt = Text.digitsValue digits ∧ ts = [.number n] := by
  simp only [← Arithmetic.fit?_eq_some_iff]
  rw [ofText_digits nonempty all, literal]
  cases Arithmetic.fit? (Text.digitsValue digits) with
  | none => simp [Except.map]
  | some n => simp [Except.map, eq_comm]

theorem ofText_digits_of_small {digits : Text} (nonempty : digits ≠ [])
    (all : ∀ c ∈ digits, c.isDigit = true)
    (small : Text.digitsValue digits ≤ 9223372036854775807) :
    ∃ n : Int64, n.toInt = Text.digitsValue digits ∧ ofText digits = .ok [.number n] := by
  obtain ⟨n, read⟩ := literal_of_small small
  have tokens : ofText digits = .ok [.number n] := by
    rw [ofText_digits nonempty all, read]
    rfl
  obtain ⟨m, exact, same⟩ := (ofText_digits_eq_ok_iff nonempty all _).1 tokens
  rw [same] at tokens
  exact ⟨m, exact, tokens⟩

theorem ofText_digits_of_le {digits : Text} (nonempty : digits ≠ [])
    (all : ∀ c ∈ digits, c.isDigit = true) {n : Int64}
    (le : (Text.digitsValue digits : Int) ≤ n.toInt) : ∃ m, ofText digits = .ok [.number m] := by
  have range := Arithmetic.fits_toInt n
  have small : Text.digitsValue digits ≤ 9223372036854775807 := by
    unfold Arithmetic.Fits at range
    omega
  obtain ⟨m, -, read⟩ := ofText_digits_of_small nonempty all small
  exact ⟨m, read⟩

theorem ofText_of_blank {s : Text} (blank : ∀ c ∈ s, Text.isBlank c = true) :
    ofText s = .ok [] := by
  induction s with
  | nil => rfl
  | cons c s ih =>
    have rest := ih fun d hd => blank d (List.mem_cons_of_mem c hd)
    have none_first : ofLexeme .blank = .ok [] := rfl
    rw [ofText, Lexeme.ofText_cons, Lexeme.attach_of_blank (blank c List.mem_cons_self),
      ofLexemes_cons_ok none_first]
    rw [ofText] at rest
    rw [rest]
    rfl

/-- A character that is no digit keeps apart what stands on either side of it. -/
theorem ofText_append_cons {c : Char} (notDigit : c.isDigit = false) (s t : Text) :
    ofText (s ++ c :: t) = do
      return (← ofText s) ++ (← ofText [c]) ++ (← ofText t) := by
  have left : ¬ Lexeme.DigitsMeet s ([c] ++ t) :=
    Lexeme.not_digitsMeet_of_head (by simp [notDigit]) s
  have right : ¬ Lexeme.DigitsMeet [c] t := Lexeme.not_digitsMeet_of_last (by simp [notDigit]) t
  change ofText (s ++ ([c] ++ t)) = _
  rw [ofText_append left, ofText_append right]
  simp only [bind_assoc, pure_bind, List.append_assoc]

theorem ofText_bracketed_eq (s : Text) :
    ofText ('(' :: s ++ [')']) = (ofText s).map fun ts => opening :: ts ++ [closing] := by
  have opened : ofText ['('] = .ok [opening] := rfl
  have closed : ofText [')'] = .ok [closing] := rfl
  change ofText (([] ++ '(' :: s) ++ ')' :: []) = _
  rw [ofText_append_cons rfl, ofText_append_cons rfl, opened, closed]
  cases ofText s with
  | error e => rfl
  | ok ts =>
    change Except.ok ([] ++ [opening] ++ ts ++ [closing] ++ []) = .ok (opening :: ts ++ [closing])
    rw [List.append_nil, List.nil_append, List.singleton_append]

theorem ofText_bracketed {s : Text} {ts : List Token} (tokens : ofText s = .ok ts) :
    ofText ('(' :: s ++ [')']) = .ok (opening :: ts ++ [closing]) := by
  rw [ofText_bracketed_eq, tokens]
  rfl

theorem decimal_eq_toDigits {n : Int64} (h : 0 ≤ n) :
    Text.decimal n.toInt = Nat.toDigits 10 n.toInt.toNat := by
  have nonneg : 0 ≤ n.toInt := Int64.le_iff_toInt_le.1 h
  rw [← Text.decimal_natCast, Int.toNat_of_nonneg nonneg]

theorem isDigit_of_mem_decimal {n : Int64} (h : 0 ≤ n) {c : Char}
    (hc : c ∈ Text.decimal n.toInt) : c.isDigit = true := by
  rw [decimal_eq_toDigits h] at hc
  exact Nat.isDigit_of_mem_toDigits (by decide) (by decide) hc

theorem decimal_ne_nil {n : Int64} (h : 0 ≤ n) : Text.decimal n.toInt ≠ [] := by
  rw [decimal_eq_toDigits h]
  exact Nat.toDigits_ne_nil

theorem ofText_decimal {n : Int64} (h : 0 ≤ n) :
    ofText (Text.decimal n.toInt) = .ok [.number n] := by
  have nonneg : 0 ≤ n.toInt := Int64.le_iff_toInt_le.1 h
  have read : literal (Text.decimal n.toInt) = .ok (.number n) := by
    rw [literal, decimal_eq_toDigits h, Text.digitsValue_toDigits, Int.toNat_of_nonneg nonneg,
      Arithmetic.fit?_toInt]
  rw [ofText_digits (decimal_ne_nil h) fun _ => isDigit_of_mem_decimal h, read]
  rfl

theorem clean_decimal {n : Int64} (nonneg : 0 ≤ n) : Alphabet.Clean (Text.decimal n.toInt) :=
  fun _ hc => Alphabet.not_refused_of_isDigit (isDigit_of_mem_decimal nonneg hc)

theorem ofText_append_eq_ok_iff {s t : Text} (h : ¬ Lexeme.DigitsMeet s t) (ts : List Token) :
    ofText (s ++ t) = .ok ts ↔
      ∃ us vs, ofText s = .ok us ∧ ofText t = .ok vs ∧ us ++ vs = ts := by
  rw [ofText_append h]
  simp only [bind_eq_ok_iff, pure, Except.pure, Except.ok.injEq, exists_and_left]

theorem ofText_insert_blank {w : Char} (blank : Text.isBlank w = true) (s t : Text) :
    ofText (s ++ w :: t) = do return (← ofText s) ++ (← ofText t) := by
  have skipped : ofText [w] = .ok [] := ofText_of_blank (by simp [blank])
  rw [ofText_append_cons (Lexeme.not_isDigit_of_isBlank blank), skipped]
  refine bind_congr fun ts => ?_
  change (do return ts ++ [] ++ (← ofText t)) = _
  rw [List.append_nil]

theorem ofText_concat_blank {w : Char} (blank : Text.isBlank w = true) (s : Text) :
    ofText (s ++ [w]) = ofText s := by
  rw [ofText_insert_blank blank]
  cases ofText s <;> simp [bind, Except.bind, pure, Except.pure]

def Unsigned (ts : List Token) : Prop := ∀ n, number n ∈ ts → 0 ≤ n

theorem unsigned_cons_iff (t : Token) (ts : List Token) :
    Unsigned (t :: ts) ↔ Unsigned [t] ∧ Unsigned ts := by
  simp only [Unsigned, List.mem_cons, List.not_mem_nil, or_false, or_imp, forall_and]

theorem ofMark?_symbol (o : Operator) : ofMark? o.symbol = some (operator o) := by
  cases o <;> rfl

theorem text_of_ofMark? {c : Char} {t : Token} (h : ofMark? c = some t) :
    t.text = [c] ∧ Unsigned [t] := by
  unfold ofMark? at h
  split at h
  next opened =>
    obtain rfl := Option.some.inj h
    exact ⟨by rw [opened]; rfl, by simp [Unsigned]⟩
  next =>
    split at h
    next closed =>
      obtain rfl := Option.some.inj h
      exact ⟨by rw [closed]; rfl, by simp [Unsigned]⟩
    next =>
      obtain ⟨o, symbol, rfl⟩ := Option.map_eq_some_iff.1 h
      rw [← (Operator.ofSymbol?_eq_some_iff c o).1 symbol]
      exact ⟨rfl, by simp [Unsigned]⟩

theorem ofMark?_of_refused {c : Char} (refused : Alphabet.Refused c) : ofMark? c = none := by
  cases mark : ofMark? c with
  | none => rfl
  | some t => exact absurd (mem_characters_of_ofMark? mark) refused.2

theorem ofLexeme_mark_of_refused {c : Char} (refused : Alphabet.Refused c) :
    ofLexeme (.mark c) = .error (.unexpectedToken c) := by
  rw [ofLexeme, ofMark?_of_refused refused]

theorem clean_of_ofText {s : Text} {ts : List Token} (h : ofText s = .ok ts) :
    Alphabet.Clean s := by
  intro c member refused
  have notDigit := Alphabet.not_isDigit_of_refused refused
  have mark := (Lexeme.mark_mem_iff s c).2 ⟨member, refused.1, notDigit⟩
  obtain ⟨us, read⟩ := exists_of_mem_lexemes h mark
  rw [ofLexeme_mark_of_refused refused] at read
  contradiction

theorem operator_mem_of_symbol_mem {s : Text} {ts : List Token} (h : ofText s = .ok ts)
    {o : Operator} (ho : o.symbol ∈ s) : operator o ∈ ts := by
  have notBlank : Text.isBlank o.symbol = false := by cases o <;> rfl
  have mark := (Lexeme.mark_mem_iff s o.symbol).2 ⟨ho, notBlank, o.symbol_isDigit⟩
  have read : ofLexeme (.mark o.symbol) = .ok [operator o] := by rw [ofLexeme, ofMark?_symbol]
  exact (mem_ofLexemes_iff h _).2 ⟨_, mark, _, read, List.mem_cons_self⟩

theorem nonneg_of_literal {digits : Text} {n : Int64} (h : literal digits = .ok (number n)) :
    0 ≤ n := by
  unfold literal at h
  cases read : Arithmetic.fit? (Text.digitsValue digits) with
  | none => simp [read] at h
  | some m =>
    simp only [read, Except.ok.injEq, number.injEq] at h
    rw [← h, Int64.le_iff_toInt_le, (Arithmetic.fit?_eq_some_iff _ _).1 read]
    exact Int.natCast_nonneg _

theorem unsigned_of_ofText {s : Text} {ts : List Token} (h : ofText s = .ok ts) :
    Unsigned ts := by
  intro n hn
  obtain ⟨l, -, us, read, member⟩ := (mem_ofLexemes_iff h _).1 hn
  cases l with
  | blank =>
    obtain rfl := Except.ok.inj read
    simp at member
  | numeral digits =>
    obtain ⟨t, first, rest⟩ := bind_eq_ok_iff.1 read
    obtain rfl := Except.ok.inj rest
    rw [← List.mem_singleton.1 member] at first
    exact nonneg_of_literal first
  | mark c =>
    rw [ofLexeme] at read
    cases token : ofMark? c with
    | none => simp [token] at read
    | some t =>
      simp only [token, Except.ok.injEq] at read
      rw [← read] at member
      exact (text_of_ofMark? token).2 n member

end Token

end IntegerCalculator
