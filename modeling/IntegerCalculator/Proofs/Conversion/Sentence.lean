import IntegerCalculator.Proofs.Conversion.Step
import IntegerCalculator.Proofs.Grammar
import Mathlib.Order.Nat

/-! What the conversion accepts and what it emits. A sentence is absorbed whole:
wherever an operand is expected and the pending operators leave it alone, reading
it comes to emitting the post-order of its tree. Conversely every state that can be
reached is a row of sentences begun and not finished, one for each pending entry.
The two together make the accepted sequences the sentences of the grammar. -/

namespace IntegerCalculator

def Pending.awaited : List Pending → Rank
  | .operator o :: _ => o.rightRank
  | _ => .sum

theorem Pending.awaited_le_rank_iff (pending : List Pending) (o : Operator) :
    (awaited pending).level ≤ o.rank.level ↔
      ∀ x ∈ pending.head?, x.takesBefore o = false := by
  cases pending with
  | nil => simp [awaited, Rank.level_sum_le]
  | cons x outer =>
    cases x with
    | operator p => simp [awaited, takesBefore, Operator.takesBefore_eq_false_iff]
    | opening => simp [awaited, takesBefore, Rank.level_sum_le]

namespace Conversion

/-- Wherever an operand of rank `r` may stand, reading `ts` succeeds, and what it has
not emitted of the post-order are operators of at least that rank. -/
def Absorbs (r : Rank) (ts : List Token) (t : Tree) : Prop :=
  ∀ s : Conversion, s.expectsOperand = true → (Pending.awaited s.pending).level ≤ r.level →
    ∃ (ops : List Operator) (emitted : List Token),
      s.run ts = .ok ⟨emitted, ops.map .operator ++ s.pending, false⟩ ∧
      (ops.map .operator).reverse ++ emitted = t.postorder.reverse ++ s.emitted ∧
      ∀ o ∈ ops, r.level ≤ o.rank.level

theorem absorbs_number (n : Int64) : Absorbs .operand [.number n] (.leaf n) := by
  intro s expects _
  refine ⟨[], .number n :: s.emitted, ?_, rfl, by simp⟩
  rw [run_cons_ok (step_number expects n)]
  rfl

theorem Absorbs.weaken {q r : Rank} {ts : List Token} {t : Tree} (h : Absorbs r ts t)
    (hq : q.level ≤ r.level) : Absorbs q ts t := by
  intro s expects awaited
  obtain ⟨ops, emitted, ran, total, ranks⟩ := h s expects (awaited.trans hq)
  exact ⟨ops, emitted, ran, total, fun o ho => hq.trans (ranks o ho)⟩

theorem Absorbs.node (o : Operator) {ts us : List Token} {t u : Tree}
    (left : Absorbs o.leftRank ts t) (right : Absorbs o.rightRank us u) :
    Absorbs o.rank (ts ++ .operator o :: us) (.node o t u) := by
  intro s expects awaited
  obtain ⟨ops, emitted, ran, total, ranks⟩ := left s expects (awaited.trans o.rank_le_leftRank)
  -- All operators of the left operand are released at `o`, and nothing below them.
  have taken : ∀ p ∈ ops, Pending.takesBefore o (.operator p) = true := fun p hp =>
    (Operator.takesBefore_iff_leftRank p o).2 (ranks p hp)
  have stops := (Pending.awaited_le_rank_iff s.pending o).1 awaited
  have suspended := release_operators taken stops emitted false
  rw [total] at suspended
  let between : Conversion :=
    ⟨t.postorder.reverse ++ s.emitted, .operator o :: s.pending, true⟩
  have reached : s.run (ts ++ .operator o :: us) = between.run us := by
    rw [run_append_ok ran, run_cons_ok (step_operator rfl o), suspend, suspended]
  obtain ⟨ops', emitted', ran', total', ranks'⟩ := right between rfl le_rfl
  refine ⟨ops' ++ [o], emitted', ?_, ?_, ?_⟩
  · rw [reached, ran']
    simp [between]
  · simp only [List.map_append, List.map_cons, List.map_nil, List.reverse_append,
      List.reverse_cons, List.reverse_nil, List.nil_append, List.cons_append, total']
    simp [between, Tree.postorder]
  · intro p hp
    rcases List.mem_append.1 hp with hp | hp
    · exact o.rank_le_rightRank.trans (ranks' p hp)
    · rw [List.mem_singleton.1 hp]

theorem run_bracketed {ts : List Token} {t : Tree} (h : Absorbs .sum ts t) {s : Conversion}
    (expects : s.expectsOperand = true) :
    s.run (.opening :: ts ++ [.closing]) =
      .ok ⟨t.postorder.reverse ++ s.emitted, s.pending, false⟩ := by
  obtain ⟨ops, emitted, ran, total, -⟩ := h { s with pending := .opening :: s.pending } expects
    (Rank.level_sum_le _)
  have released : release Pending.isOperator
      ⟨emitted, ops.map .operator ++ .opening :: s.pending, false⟩ =
        ⟨(ops.map .operator).reverse ++ emitted, .opening :: s.pending, false⟩ :=
    release_operators (fun _ _ => rfl) (by simp [Pending.isOperator]) emitted false
  rw [List.cons_append, run_cons_ok (step_opening expects), run_append_ok ran,
    run_cons, step_closing rfl, close, released, total]
  rfl

theorem absorbs_of_sentence {r : Rank} {ts : List Token} {t : Tree} (h : Sentence r ts t) :
    Absorbs r ts t := by
  refine Sentence.induct ?number ?bracket ?node ?weaken h
  case number => exact absorbs_number
  case bracket =>
    intro ts t ih s expects _
    exact ⟨[], _, run_bracketed ih expects, rfl, by simp⟩
  case node => exact fun o _ _ _ _ iht ihu => iht.node o ihu
  case weaken => exact fun _ _ _ _ hq ih => ih.weaken hq

/-- The tokens of a state that expects an operand: brackets that are open, and
operators with the left operand each has, from the outermost inwards. -/
inductive Begun : List Token → List Token → List Pending → Prop where
  | start : Begun [] [] []
  | opening {ts emitted : List Token} {pending : List Pending} :
      Begun ts emitted pending → Begun (ts ++ [.opening]) emitted (.opening :: pending)
  | operator {ts us emitted : List Token} {pending : List Pending} {o : Operator} {t : Tree} :
      Begun ts emitted pending → Sentence o.leftRank us t →
      (Pending.awaited pending).level ≤ o.rank.level →
      Begun (ts ++ us ++ [.operator o]) (t.postorder.reverse ++ emitted) (.operator o :: pending)

/-- A state in which a sentence of rank `r` stands complete behind what was begun. -/
inductive Completed (r : Rank) : List Token → Conversion → Prop where
  | intro {ts us emitted : List Token} {pending : List Pending} {t : Tree} :
      Begun ts emitted pending → Sentence r us t → (Pending.awaited pending).level ≤ r.level →
      Completed r (ts ++ us) ⟨t.postorder.reverse ++ emitted, pending, false⟩

theorem Completed.reduce {r : Rank} {ts emitted : List Token} {outer : List Pending}
    {o : Operator} {expectsOperand : Bool}
    (h : Completed r ts ⟨emitted, .operator o :: outer, expectsOperand⟩) :
    Completed o.rank ts ⟨.operator o :: emitted, outer, expectsOperand⟩ := by
  cases h with
  | intro begun right awaited =>
    cases begun with
    | operator begun left below =>
      have whole := Sentence.node o left (right.weaken awaited)
      have completed := Completed.intro begun whole below
      simpa [Tree.postorder] using completed

theorem Completed.release {r bound : Rank} {ts : List Token} {s : Conversion}
    {p : Pending → Bool} (h : Completed r ts s) (stops : p .opening = false)
    (high : bound.level ≤ r.level)
    (taken : ∀ o, p (.operator o) = true → bound.level ≤ o.rank.level) :
    ∃ q, bound.level ≤ q.level ∧ Completed q ts (s.release p) := by
  refine release_induct (motive := fun s => ∃ q, bound.level ≤ q.level ∧ Completed q ts s) stops
    ?_ ⟨r, high, h⟩
  rintro emitted o outer expectsOperand ho ⟨q, -, completed⟩
  exact ⟨o.rank, taken o ho, completed.reduce⟩

inductive Reached : List Token → Conversion → Prop where
  | awaiting {ts emitted : List Token} {pending : List Pending} :
      Begun ts emitted pending → Reached ts ⟨emitted, pending, true⟩
  | complete {ts : List Token} {s : Conversion} : Completed .operand ts s → Reached ts s

theorem Completed.expectsOperand {r : Rank} {ts : List Token} {s : Conversion}
    (h : Completed r ts s) : s.expectsOperand = false := by
  cases h
  rfl

theorem Completed.suspend {ts : List Token} {s : Conversion} (h : Completed .operand ts s)
    (o : Operator) : Reached (ts ++ [.operator o]) (s.suspend o) := by
  have taken (p : Operator) (hp : Pending.takesBefore o (.operator p) = true) :
      o.leftRank.level ≤ p.rank.level :=
    (Operator.takesBefore_iff_leftRank p o).1 hp
  obtain ⟨q, hq, completed⟩ := h.release rfl o.leftRank.level_le_operand taken
  have below := (Pending.awaited_le_rank_iff _ o).2 (release_stops (Pending.takesBefore o) s)
  rw [Conversion.suspend]
  generalize s.release (Pending.takesBefore o) = released at completed below
  cases completed with
  | intro begun left awaited => exact .awaiting (begun.operator (left.weaken hq) below)

theorem Completed.close {ts : List Token} {s : Conversion} {outer : List Pending}
    (h : Completed .operand ts s)
    (innermost : (s.release Pending.isOperator).pending = .opening :: outer) :
    Completed .operand (ts ++ [.closing])
      { s.release Pending.isOperator with pending := outer } := by
  obtain ⟨q, -, completed⟩ := h.release (p := Pending.isOperator) rfl
    (Rank.level_sum_le _) fun o _ => o.rank.level_sum_le
  generalize s.release Pending.isOperator = released at completed innermost
  cases completed with
  | intro begun inner awaited =>
    cases innermost
    cases begun with
    | opening begun =>
      have bracketed :=
        Completed.intro begun (Sentence.bracket inner.toSum) (Rank.level_le_operand _)
      simpa using bracketed

theorem Reached.step {ts : List Token} {s s' : Conversion} {t : Token} (h : Reached ts s)
    (stepped : s.step t = .ok s') : Reached (ts ++ [t]) s' := by
  cases h with
  | awaiting begun =>
    cases steps_of_step stepped with
    | number n _ => exact .complete (.intro begun (.number n) (Rank.level_le_operand _))
    | opening _ => exact .awaiting begun.opening
    | operator o expects => cases expects
    | closing expects _ => cases expects
  | complete completed =>
    have complete := completed.expectsOperand
    cases steps_of_step stepped with
    | number n expects => rw [complete] at expects; contradiction
    | opening expects => rw [complete] at expects; contradiction
    | operator o _ => exact completed.suspend o
    | closing _ innermost => exact .complete (completed.close innermost)

theorem reached_of_run {ts : List Token} {s : Conversion}
    (ran : ({} : Conversion).run ts = .ok s) : Reached ts s :=
  run_induct (.awaiting .start) Reached.step ran

theorem Reached.finish {ts out : List Token} {s : Conversion} (h : Reached ts s)
    (finished : s.finish = .ok out) : ∃ t, Sentence .sum ts t ∧ t.postorder = out := by
  cases h with
  | awaiting begun => cases finished
  | complete completed =>
    obtain ⟨q, -, released⟩ := completed.release (p := Pending.isOperator) rfl
      (Rank.level_sum_le _) fun o _ => o.rank.level_sum_le
    obtain ⟨-, bottom, rfl⟩ := released_of_finish finished
    generalize s.release Pending.isOperator = after at released bottom
    cases released with
    | intro begun sentence awaited =>
      cases begun with
      | start => exact ⟨_, sentence.toSum, by simp⟩
      | opening => cases bottom
      | operator => cases bottom

end Conversion

namespace Postfix

theorem ofTokens_of_sentence {ts : List Token} {t : Tree} (h : Sentence .sum ts t) :
    ofTokens ts = .ok t.postorder := by
  obtain ⟨ops, emitted, ran, total, -⟩ := Conversion.absorbs_of_sentence h {} rfl le_rfl
  have released : Conversion.release Pending.isOperator
      ⟨emitted, ops.map .operator ++ [], false⟩ =
        ⟨(ops.map .operator).reverse ++ emitted, [], false⟩ :=
    Conversion.release_operators (fun _ _ => rfl) (by simp) emitted false
  rw [total] at released
  rw [ofTokens_of_run ran, Conversion.finish_of_released rfl released]
  simp

theorem exists_sentence_of_ofTokens {ts out : List Token} (h : ofTokens ts = .ok out) :
    ∃ t, Sentence .sum ts t ∧ t.postorder = out := by
  obtain ⟨s, ran, finished⟩ := exists_run_of_ofTokens h
  exact (Conversion.reached_of_run ran).finish finished

end Postfix

/-- The conversion returns one order only, and that order shows the tree. -/
theorem Sentence.unique {ts : List Token} {t u : Tree} (ht : Sentence .sum ts t)
    (hu : Sentence .sum ts u) : t = u := by
  have converted := (Postfix.ofTokens_of_sentence ht).symm.trans (Postfix.ofTokens_of_sentence hu)
  exact Tree.postorder_injective (Except.ok.inj converted)

namespace Postfix

theorem ofTokens_postorder_node (o : Operator) (l r : Tree) :
    ofTokens (Tree.node o l r).postorder = .error .malformedExpression := by
  obtain ⟨m, n, rest, order⟩ := Tree.postorder_node o l r
  have first := Conversion.step_number (s := {}) rfl m
  have second := Conversion.step_of_juxtaposed first (b := .number n) rfl rfl
  rw [order]
  apply ofTokens_of_run_error
  rw [Conversion.run_cons_ok first, Conversion.run_cons_error second]

theorem ofTokens_juxtaposed_ne_ok {a b : Token} (ends : a.endsOperand = true)
    (begins : b.beginsOperand = true) (before after out : List Token) :
    ofTokens (before ++ a :: b :: after) ≠ .ok out := by
  intro accepted
  obtain ⟨s, ran, -⟩ := exists_run_of_ofTokens accepted
  obtain ⟨first, -, ran⟩ := Conversion.exists_of_run_append ran
  obtain ⟨second, stepped, ran⟩ := Conversion.exists_of_run_cons ran
  obtain ⟨third, followed, -⟩ := Conversion.exists_of_run_cons ran
  rw [Conversion.step_of_juxtaposed stepped ends begins] at followed
  contradiction

/-- What is accepted is what the grammar derives, and the result is the post-order of
the tree, which is the same for every derivation. -/
theorem ofTokens_accepts_sentences (ts : List Token) :
    (∀ out, ofTokens ts = .ok out ↔ ∃ t, Sentence .sum ts t ∧ t.postorder = out) ∧
      (∀ t u, Sentence .sum ts t → Sentence .sum ts u → t = u) ∧
      (∀ o l r, ts = (Tree.node o l r).postorder → ofTokens ts = .error .malformedExpression) ∧
      ∀ before a b after out, ts = before ++ a :: b :: after → a.endsOperand = true →
        b.beginsOperand = true → ofTokens ts ≠ .ok out := by
  refine ⟨fun out => ⟨exists_sentence_of_ofTokens, ?_⟩, fun t u => Sentence.unique, ?_, ?_⟩
  · rintro ⟨t, sentence, rfl⟩
    exact ofTokens_of_sentence sentence
  · rintro o l r rfl
    exact ofTokens_postorder_node o l r
  · rintro before a b after out rfl ends begins
    exact ofTokens_juxtaposed_ne_ok ends begins before after out

end Postfix

end IntegerCalculator
