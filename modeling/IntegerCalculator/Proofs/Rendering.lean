import IntegerCalculator.Proofs.Conversion.Sentence
import IntegerCalculator.Proofs.Token

/-! Tokens and sentences as texts. The space between two tokens keeps them apart, so what
is shown reads as the same tokens, provided no number has a sign. The tokens of a
sentence and of the post-order of its tree are the same, except for brackets, which
match; and a text is converted when its tokens form a sentence. -/

namespace IntegerCalculator

open Alphabet (Clean)
open IntegerCalculator.Bracket (Balanced depthAfter?)

namespace Token

theorem render_cons {ts : List Token} (h : ts ≠ []) (t : Token) :
    render (t :: ts) = t.text ++ ' ' :: render ts := by
  have notNil : ts.map text ≠ [] := by simpa using h
  rw [render, List.map_cons, List.intercalate_cons_of_ne_nil notNil]
  simp [render]

theorem render_singleton (t : Token) : render [t] = t.text := List.intercalate_singleton

theorem ofText_text {t : Token} (unsigned : Unsigned [t]) : ofText t.text = .ok [t] := by
  cases t with
  | number n => exact ofText_decimal (unsigned n List.mem_cons_self)
  | operator o => cases o <;> rfl
  | opening => rfl
  | closing => rfl

theorem ofText_render {ts : List Token} (unsigned : Unsigned ts) :
    ofText (render ts) = .ok ts := by
  induction ts with
  | nil => rfl
  | cons t ts ih =>
    obtain ⟨first, rest⟩ := (unsigned_cons_iff t ts).1 unsigned
    by_cases last : ts = []
    · rw [last, render_singleton, ofText_text first]
    · rw [render_cons last, ofText_insert_blank rfl, ofText_text first, ih rest]
      rfl

theorem clean_render {ts : List Token} (unsigned : Unsigned ts) : Clean (render ts) :=
  clean_of_ofText (ofText_render unsigned)

theorem balanced_render_iff {ts : List Token} (unsigned : Unsigned ts) :
    Balanced (render ts) ↔ depthAfter? 0 (ts.filterMap bracket?) = some 0 := by
  rw [← Bracket.balanced_eq_true_iff, Bracket.balanced, Bracket.closes_iff_depthAfter?,
    filterMap_bracket? (ofText_render unsigned), Bracket.depthAfter?_filter]

end Token

namespace Sentence

theorem depthAfter?_filterMap {r : Rank} {ts : List Token} {t : Tree} (h : Sentence r ts t)
    (depth : Nat) : depthAfter? depth (ts.filterMap Token.bracket?) = some depth := by
  suffices matched : ∀ depth, depthAfter? depth (ts.filterMap Token.bracket?) = some depth from
    matched depth
  refine Sentence.induct ?number ?bracket ?node ?weaken h
  case number => exact fun n depth => rfl
  case bracket =>
    intro ts t ih depth
    change depthAfter? depth ('(' :: (ts ++ [Token.closing]).filterMap Token.bracket?) = some depth
    rw [List.filterMap_append, Bracket.depthAfter?_cons, Bracket.pass_opening, Option.bind_some,
      Bracket.depthAfter?_append, ih, Option.bind_some]
    rfl
  case node =>
    intro o ts us t u iht ihu depth
    change depthAfter? depth ((ts ++ ([Token.operator o] ++ us)).filterMap Token.bracket?) = some depth
    rw [List.filterMap_append, Bracket.depthAfter?_append, iht, Option.bind_some]
    exact ihu depth
  case weaken => exact fun _ _ _ _ _ ih => ih

/-- The post-order has the tokens of the sentence except its brackets. -/
theorem mem_postorder_iff {r : Rank} {ts : List Token} {t : Tree} (h : Sentence r ts t)
    (x : Token) : x ∈ t.postorder ↔ x ∈ ts ∧ x.bracket? = none := by
  refine Sentence.induct ?number ?bracket ?node ?weaken h
  case number =>
    intro n
    simp only [Tree.postorder, List.mem_singleton, iff_self_and]
    rintro rfl
    rfl
  case bracket =>
    intro ts t ih
    rw [ih]
    cases x <;> simp [Token.bracket?]
  case node =>
    intro o ts us t u iht ihu
    rw [Tree.postorder, List.mem_append, List.mem_append, iht, ihu]
    cases x <;> simp [Token.bracket?, or_comm, or_left_comm]
  case weaken => exact fun _ _ _ _ _ ih => ih

theorem unsigned_postorder_iff {r : Rank} {ts : List Token} {t : Tree} (h : Sentence r ts t) :
    Token.Unsigned t.postorder ↔ Token.Unsigned ts := by
  simp only [Token.Unsigned, h.mem_postorder_iff, Token.bracket?, and_true]

theorem filterMap_bracket?_postorder {r : Rank} {ts : List Token} {t : Tree}
    (h : Sentence r ts t) : t.postorder.filterMap Token.bracket? = [] :=
  List.filterMap_eq_nil_iff.2 fun x hx => ((h.mem_postorder_iff x).1 hx).2

theorem balanced_of_ofText {r : Rank} {s : Text} {ts : List Token} {t : Tree}
    (h : Sentence r ts t) (tokens : Token.ofText s = .ok ts) : Balanced s := by
  rw [← Bracket.balanced_eq_true_iff, Bracket.balanced, Bracket.closes_iff_depthAfter?,
    ← Bracket.depthAfter?_filter, ← Token.filterMap_bracket? tokens]
  exact h.depthAfter?_filterMap 0

end Sentence

namespace Postfix

theorem ofText_of_sentence {s : Text} {ts : List Token} {t : Tree}
    (tokens : Token.ofText s = .ok ts) (h : Sentence .sum ts t) :
    ofText s = .ok t.postorder := by
  rw [ofText, tokens]
  exact ofTokens_of_sentence h

theorem exists_sentence_of_ofText {s : Text} {order : List Token} (h : ofText s = .ok order) :
    ∃ ts t, Token.ofText s = .ok ts ∧ Sentence .sum ts t ∧ t.postorder = order := by
  obtain ⟨ts, tokens, converted⟩ := bind_eq_ok_iff.1 h
  obtain ⟨t, sentence, shape⟩ := exists_sentence_of_ofTokens converted
  exact ⟨ts, t, tokens, sentence, shape⟩

end Postfix

end IntegerCalculator
