import BoolWhile.Proofs.Recognition.Parts
import Mathlib.Logic.Relation

/-!
# Boundaries between statements

The loop over statements stands between two of them each time it goes on: it moves over the end of
a block, over a loop up to its statements, or over an expression (`ProgramState.Moves`). So what it
has moved over is cut into whole parts of trees, and the same moves are made in front of any tokens
that do not continue an expression (`ProgramState.Moves.exists_read`). A boundary of a list of
tokens is an index where the loop stands.
-/

namespace BoolWhile

open Grammar Relation

variable {tokens : List Token} {c : Nat}

/-! ### What the loop moves over -/

lemma ProgramStep.exists_of_behind {statements blocks : Nat} {t : ProgramState}
    {outcome : Except Stuck (List Kind)} (h : behind statements blocks outcome = .next t) :
    ∃ rest, outcome = .ok rest ∧ t = ⟨statements, blocks, rest⟩ := by
  cases outcome with
  | error place => cases h
  | ok rest => exact ⟨rest, rfl, (next.inj h).symm⟩

namespace ProgramState

/-- One round of the loop over statements that goes on. -/
inductive Moves : ProgramState → ProgramState → Prop
  /-- Over the end of the innermost block. -/
  | closeBlock (statements blocks : Nat) (ks : List Kind) :
    Moves ⟨statements, blocks + 1, .rightBrace :: ks⟩ ⟨statements, blocks, ks⟩
  /-- Over a loop up to its first statement. -/
  | loop (statements blocks : Nat) (header : Header) (ks : List Kind) :
    Moves ⟨statements, blocks, header.tokens.map Token.kind ++ ks⟩
      ⟨if blocks = 0 then statements + 1 else statements, blocks + 1, ks⟩
  /-- Over a whole expression. -/
  | expression (statements blocks : Nat) (e : Expression) {ks : List Kind}
    (hks : EndsExpression ks) :
    Moves ⟨statements, blocks, e.tokens.map Token.kind ++ ks⟩
      ⟨if blocks = 0 then statements + 1 else statements, blocks, ks⟩

variable {s t u : ProgramState}

lemma Moves.of_beginStatement (h : s.beginStatement = .next t) : Moves s t := by
  obtain ⟨statements, blocks, ks⟩ := s
  obtain ⟨ts, rfl⟩ := exists_map_kind ks
  rw [beginStatement] at h
  split_ifs at h
  · obtain ⟨rest, hread, rfl⟩ := ProgramStep.exists_of_behind h
    obtain ⟨-, us, rfl, rfl, header, rfl⟩ := readHeader_eq_ok_iff.1 hread
    rw [List.map_append]
    exact .loop statements blocks header _
  · obtain ⟨rest, hread, rfl⟩ := ProgramStep.exists_of_behind h
    obtain ⟨-, us, rfl, rfl, ⟨e, rfl⟩, hends⟩ := readExpression_eq_ok_iff.1 hread
    rw [List.map_append]
    exact .expression statements blocks e hends

/-- Each round of the loop makes one of the moves. -/
theorem Moves.of_step (h : s.step = .next t) : Moves s t := by
  unfold step at h
  split at h
  · cases h
  · cases h
  · rename_i hblocks hrest
    obtain rfl := ProgramStep.next.inj h
    obtain ⟨statements, blocks, ks⟩ := s
    obtain rfl := hblocks
    obtain rfl := hrest
    exact .closeBlock _ _ _
  · exact .of_beginStatement h

theorem Moves.step (h : Moves s t) : s.step = .next t := by
  cases h with
  | closeBlock => rfl
  | loop statements blocks header ks => exact step_header header statements blocks ks
  | expression statements blocks e hks => exact step_expression e statements blocks hks

lemma Moves.unique (h : Moves s t) (h' : Moves s u) : t = u :=
  ProgramStep.next.inj (h.step.symm.trans h'.step)

/-- No round begins with an operator between operands. -/
lemma Moves.endsExpression (h : Moves s t) : EndsExpression s.rest := by
  cases h with
  | closeBlock => exact endsExpression_cons.2 rfl
  | loop statements blocks header ks =>
    refine endsExpression_cons.2 ?_
    rw [header.keyword.2]
    rfl
  | expression statements blocks e hks =>
    obtain ⟨k, ks, hkinds, hk⟩ := exists_begin e _
    rw [hkinds]
    exact endsExpression_cons.2 (Kind.isBinary_of_begins hk)

/-- Each round but one that ends a block begins a statement. -/
lemma Moves.statements_eq (h : Moves s t) :
    t.statements = s.statements + if s.blocks = 0 then 1 else 0 := by
  cases h with
  | closeBlock => rfl
  | loop => split_ifs <;> rfl
  | expression => split_ifs <;> rfl

/-! ### Many rounds -/

lemma reached_iff_moves :
    ReflTransGen (fun s t : ProgramState => s.step = .next t) s t ↔ ReflTransGen Moves s t :=
  ⟨ReflTransGen.mono (fun _ _ => Moves.of_step) _ _, ReflTransGen.mono (fun _ _ => Moves.step) _ _⟩

lemma run_of_moves (h : ReflTransGen Moves s t) : s.run = t.run := by
  induction h with
  | refl => rfl
  | tail _ hlast ih => exact ih.trans (run_of_next hlast.step)

lemma eq_of_step_accepted {n : Nat} (h : s.step = .accepted n) : s = ⟨n, 0, []⟩ := by
  unfold step at h
  split at h
  · rename_i hblocks hrest
    obtain ⟨statements, blocks, ks⟩ := s
    obtain rfl := hblocks
    obtain rfl := hrest
    obtain rfl := ProgramStep.accepted.inj h
    rfl
  · cases h
  · cases h
  · unfold beginStatement at h
    split_ifs at h
    · cases hread : readHeader s.rest <;> rw [hread] at h <;> cases h
    · cases hread : readExpression s.rest <;> rw [hread] at h <;> cases h

/-- A program is moved over to its end. -/
lemma moves_of_run {s : ProgramState} {n : Nat} (h : s.run = .ok n) :
    ReflTransGen Moves s ⟨n, 0, []⟩ := by
  cases hstep : s.step with
  | next t =>
    have := length_lt_of_step hstep
    rw [run_of_next hstep] at h
    exact .head (.of_step hstep) (moves_of_run h)
  | accepted statements =>
    obtain rfl := Except.ok.inj ((run_of_accepted hstep).symm.trans h)
    rw [eq_of_step_accepted hstep]
  | stuck place =>
    rw [run_of_stuck hstep] at h
    cases h
termination_by s.rest.length

/-- The loop ends each round with fewer tokens, so it does not return to a state. -/
lemma eq_or_length_lt_of_moves (h : ReflTransGen Moves s t) :
    s = t ∨ t.rest.length < s.rest.length := by
  induction h with
  | refl => exact .inl rfl
  | tail _ hlast ih =>
    have hlt := length_lt_of_step hlast.step
    rcases ih with rfl | hlt'
    · exact .inr hlt
    · exact .inr (hlt.trans hlt')

lemma length_rest_le (h : ReflTransGen Moves s t) : t.rest.length ≤ s.rest.length := by
  rcases eq_or_length_lt_of_moves h with rfl | hlt
  · exact Nat.le_refl _
  · exact hlt.le

/-- Of two states that are both reached, one is reached from the other. -/
lemma moves_of_length_le (ht : ReflTransGen Moves s t) (hu : ReflTransGen Moves s u)
    (hle : u.rest.length ≤ t.rest.length) : ReflTransGen Moves t u := by
  have hunique : Relator.RightUnique Moves := fun _ _ _ => Moves.unique
  rcases ReflTransGen.total_of_right_unique hunique ht hu with h | h
  · exact h
  · rcases eq_or_length_lt_of_moves h with rfl | hlt
    · exact .refl
    · exact absurd hle (Nat.not_le.2 hlt)

/-- What is moved over does not depend on what stands behind it, unless an expression in front of
that would go on. -/
theorem Moves.exists_read (h : ReflTransGen Moves s t) :
    ∃ read, s.rest = read ++ t.rest ∧ ∀ behind, EndsExpression behind →
      ReflTransGen Moves ⟨s.statements, s.blocks, read ++ behind⟩
        ⟨t.statements, t.blocks, behind⟩ := by
  induction h using ReflTransGen.head_induction_on with
  | refl => exact ⟨[], rfl, fun behind _ => .refl⟩
  | head hfirst _ ih =>
    obtain ⟨read, hrest, hmoves⟩ := ih
    cases hfirst with
    | closeBlock statements blocks ks =>
      obtain rfl : ks = read ++ t.rest := hrest
      exact ⟨.rightBrace :: read, rfl, fun behind hbehind =>
        .head (.closeBlock statements blocks _) (hmoves behind hbehind)⟩
    | loop statements blocks header ks =>
      obtain rfl : ks = read ++ t.rest := hrest
      refine ⟨header.tokens.map Token.kind ++ read, (List.append_assoc _ _ _).symm, ?_⟩
      intro behind hbehind
      rw [List.append_assoc]
      exact .head (.loop statements blocks header _) (hmoves behind hbehind)
    | @expression statements blocks e ks hks =>
      obtain rfl : ks = read ++ t.rest := hrest
      refine ⟨e.tokens.map Token.kind ++ read, (List.append_assoc _ _ _).symm, ?_⟩
      intro behind hbehind
      -- The token behind the expression is the same one, or the first one of what stands behind.
      have hends : EndsExpression (read ++ behind) := by
        cases read with
        | nil => exact hbehind
        | cons k read => exact endsExpression_cons.2 (endsExpression_cons.1 hks)
      rw [List.append_assoc]
      exact .head (.expression statements blocks e hends) (hmoves behind hbehind)

/-- The same moves in front of other tokens. -/
lemma moves_append (h : ReflTransGen Moves s t) {read behind : List Kind}
    (hread : s.rest = read ++ t.rest) (hbehind : EndsExpression behind) :
    ReflTransGen Moves ⟨s.statements, s.blocks, read ++ behind⟩
      ⟨t.statements, t.blocks, behind⟩ := by
  obtain ⟨read', hread', hmoves⟩ := Moves.exists_read h
  rw [hread] at hread'
  obtain rfl := List.append_cancel_right hread'
  exact hmoves behind hbehind

end ProgramState

/-! ### Boundaries in a list of tokens -/

lemma map_take_append_drop (tokens : List Token) (i : Nat) :
    tokens.map Token.kind = (tokens.take i).map Token.kind ++ (tokens.drop i).map Token.kind := by
  rw [← List.map_append, List.take_append_drop]

/-- Between the tokens before an index and those behind it, the loop over statements stands, with
the statements and the open blocks that it has counted. -/
structure Passes (tokens : List Token) (index statements blocks : Nat) : Prop where
  le_length : index ≤ tokens.length
  reached : ReflTransGen (fun s t : ProgramState => s.step = .next t)
    (.start (tokens.map Token.kind)) ⟨statements, blocks, (tokens.drop index).map Token.kind⟩

namespace Passes

open ProgramState

variable {i j statements blocks n b m : Nat}

lemma moves (h : Passes tokens i statements blocks) :
    ReflTransGen Moves (.start (tokens.map Token.kind))
      ⟨statements, blocks, (tokens.drop i).map Token.kind⟩ :=
  reached_iff_moves.1 h.reached

/-- Wherever the loop stands, it stands at a boundary. -/
lemma of_moves {s : ProgramState} (h : ReflTransGen Moves (.start (tokens.map Token.kind)) s) :
    ∃ k, s.rest = (tokens.drop k).map Token.kind ∧ Passes tokens k s.statements s.blocks := by
  obtain ⟨read, hkinds, -⟩ := Moves.exists_read h
  obtain ⟨part, us, rfl, rfl, hus⟩ := List.map_eq_append_iff.1 hkinds
  have hdrop : (part ++ us).drop part.length = us := List.drop_left
  refine ⟨part.length, by rw [hdrop, hus], by simp, ?_⟩
  rw [hdrop, hus]
  exact reached_iff_moves.2 h

lemma of_moves_drop (hi : i ≤ tokens.length) (h : ReflTransGen Moves
    (.start (tokens.map Token.kind)) ⟨statements, blocks, (tokens.drop i).map Token.kind⟩) :
    Passes tokens i statements blocks :=
  ⟨hi, reached_iff_moves.2 h⟩

/-- What holds in front of all tokens, and behind each round if it held in front of it, holds at
every boundary. -/
theorem rounds {P : Nat → Nat → Nat → Prop} (hstart : P 0 0 0)
    (hround : ∀ i j n b m c, Passes tokens i n b → Passes tokens j m c →
      Moves ⟨n, b, (tokens.drop i).map Token.kind⟩ ⟨m, c, (tokens.drop j).map Token.kind⟩ →
      P i n b → P j m c)
    (h : Passes tokens i n b) : P i n b := by
  suffices hall : ∀ s, ReflTransGen Moves (.start (tokens.map Token.kind)) s →
      ∀ k ≤ tokens.length, s.rest = (tokens.drop k).map Token.kind →
        P k s.statements s.blocks from
    hall ⟨n, b, (tokens.drop i).map Token.kind⟩ h.moves i h.le_length rfl
  intro s hs
  induction hs with
  | refl =>
    intro k hk hrest
    have hlength := congrArg List.length hrest
    simp only [ProgramState.start, List.length_map, List.length_drop] at hlength
    obtain rfl : k = 0 := by omega
    exact hstart
  | @tail s t hs hlast ih =>
    intro k hk hrest
    obtain ⟨i, hi, hpasses⟩ := of_moves hs
    obtain ⟨n, b, ks⟩ := s
    obtain ⟨m, c, ls⟩ := t
    obtain rfl := hi
    obtain rfl := hrest
    exact hround i k n b m c hpasses (of_moves_drop hk (hs.tail hlast)) hlast
      (ih i hpasses.le_length rfl)

/-- Between two boundaries the loop moves from the one to the other. -/
lemma moves_to (hi : Passes tokens i statements blocks) (hj : Passes tokens j n b) (hij : i ≤ j) :
    ReflTransGen Moves ⟨statements, blocks, (tokens.drop i).map Token.kind⟩
      ⟨n, b, (tokens.drop j).map Token.kind⟩ := by
  refine moves_of_length_le hi.moves hj.moves ?_
  simp only [List.length_map, List.length_drop]
  omega

/-- An index is a boundary in one way. -/
lemma unique (h : Passes tokens i statements blocks) (h' : Passes tokens i n b) :
    statements = n ∧ blocks = b := by
  rcases eq_or_length_lt_of_moves (h.moves_to h' (Nat.le_refl i)) with heq | hlt
  · rw [ProgramState.mk.injEq] at heq
    exact ⟨heq.1, heq.2.1⟩
  · exact absurd hlt (Nat.lt_irrefl _)

/-- A round ends at the next boundary. -/
lemma le_or_le_of_round {k : Nat} (hi : Passes tokens i n b) (hj : Passes tokens j statements c)
    (h : Moves ⟨n, b, (tokens.drop i).map Token.kind⟩
      ⟨statements, c, (tokens.drop j).map Token.kind⟩)
    (hk : Passes tokens k m blocks) : k ≤ i ∨ j ≤ k := by
  by_contra hbetween
  obtain ⟨hik, hkj⟩ := not_or.1 hbetween
  have := hj.le_length
  rcases (hi.moves_to hk (by omega)).cases_head with heq | ⟨u, hfirst, hmore⟩
  · have hlength := congrArg (fun s => s.rest.length) heq
    simp only [List.length_map, List.length_drop] at hlength
    omega
  · obtain rfl := h.unique hfirst
    have hlength := length_rest_le hmore
    simp only [List.length_map, List.length_drop] at hlength
    omega

/-- From a boundary on, what stands behind it is read, whatever it is. -/
theorem run_take_append (h : Passes tokens i statements blocks) {ks : List Kind}
    (hks : EndsExpression ks) :
    readProgram ((tokens.take i).map Token.kind ++ ks) =
      (⟨statements, blocks, ks⟩ : ProgramState).run :=
  run_of_moves (moves_append h.moves (map_take_append_drop tokens i) hks)

lemma run_drop (h : Passes tokens i statements blocks) (hc : countStatements tokens = .ok c) :
    (⟨statements, blocks, (tokens.drop i).map Token.kind⟩ : ProgramState).run = .ok c := by
  rw [← run_of_moves h.moves]
  exact countStatements_eq_ok_iff.1 hc

end Passes

end BoolWhile
