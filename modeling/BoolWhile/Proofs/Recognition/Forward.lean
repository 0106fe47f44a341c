import BoolWhile.Proofs.Recognition.Boundary

/-!
# Recognition moves forward

Whatever is looked for, a cursor is moved over at least one token and not past the end, or there is
an error about a token from there on, or about the end. Since that holds of a single token, and of
one part read behind another, it holds of all that is put together of them. So each round of the
loop over statements that goes on comes to a later boundary, there are not more of them than tokens,
and a program is cut into them.
-/

namespace BoolWhile

open Relation

variable {tokens : List Token} {ks rest : List Kind} {pos i j n m b c : Nat}

/-! ### What is left -/

/-- Less is left than there was, or what is missing stands somewhere in it. -/
inductive Forward (ks : List Kind) : Except Stuck (List Kind) → Prop
  | read {rest : List Kind} (h : rest.length < ks.length) : Forward ks (.ok rest)
  | stuck {place : Stuck} (h : place.unread.length ≤ ks.length) : Forward ks (.error place)

namespace Forward

lemma bind {first : Except Stuck (List Kind)} {next : List Kind → Except Stuck (List Kind)}
    (hfirst : Forward ks first) (hnext : ∀ rest, Forward rest (next rest)) :
    Forward ks (first >>= next) := by
  cases hfirst with
  | stuck h => exact .stuck h
  | @read rest h =>
    have hrest := hnext rest
    rw [ok_bind]
    generalize next rest = outcome at hrest ⊢
    cases hrest with
    | read h' => exact .read (h'.trans h)
    | stuck h' => exact .stuck (h'.trans h.le)

lemma construct (construct : Construct) (ks : List Kind) : Forward ks (construct.read ks) := by
  cases hread : construct.read ks with
  | ok rest => exact .read (Construct.length_lt_of_read hread)
  | error place =>
    refine .stuck ?_
    cases ks with
    | nil =>
      obtain rfl := Except.error.inj hread
      exact Nat.le_refl _
    | cons k ks =>
      rw [Construct.read] at hread
      split_ifs at hread
      obtain rfl := Except.error.inj hread
      exact Nat.le_refl _

lemma length_unread_le {s : ExpressionState} {place : Stuck} (h : s.read ks = .error place) :
    place.unread.length ≤ ks.length := by
  fun_induction ExpressionState.read s ks with
  | case1 => cases h
  | case2 =>
    obtain rfl := Except.error.inj h
    exact Nat.le_refl _
  | case3 s k ks s' hmove ih => exact (ih h).trans (Nat.le_succ _)
  | case4 => cases h
  | case5 =>
    obtain rfl := Except.error.inj h
    exact Nat.le_refl _

lemma expression (ks : List Kind) : Forward ks (readExpression ks) := by
  cases hread : readExpression ks with
  | ok rest => exact .read (length_lt_of_readExpression hread)
  | error place => exact .stuck (length_unread_le hread)

lemma header (ks : List Kind) : Forward ks (readHeader ks) :=
  (construct .whileKeyword ks).bind fun ks₁ =>
    (construct .openCondition ks₁).bind fun ks₂ =>
      (expression ks₂).bind fun ks₃ =>
        (construct .closeCondition ks₃).bind fun ks₄ => construct .openBlock ks₄

end Forward

/-! ### Where a cursor is moved to -/

/-- An error is about the token at an index. -/
structure SyntaxError.IsAt (e : SyntaxError) (tokens : List Token) (k : Nat) : Prop where
  code : e.diagnostic.code = some "P001"
  token : ∃ t, tokens[k]? = some t ∧ e.token = some t ∧ e.diagnostic.location = some t.location

/-- An error is about the end of the tokens. -/
structure SyntaxError.IsAtEnd (e : SyntaxError) (tokens : List Token) : Prop where
  code : e.diagnostic.code = some "P010"
  token : e.token = none
  location : e.diagnostic.location = endOfTokens tokens

/-- From a position, a cursor is moved over at least one token and not past the end, or there is an
error about a token from there on, or about the end. -/
inductive Advances (tokens : List Token) (pos : Nat) : Except SyntaxError Cursor → Prop
  | read {q : Nat} (hpos : pos < q) (hq : q ≤ tokens.length) : Advances tokens pos (.ok ⟨tokens, q⟩)
  | refused {k : Nat} {e : SyntaxError} (hk : pos ≤ k) (he : e.IsAt tokens k) :
    Advances tokens pos (.error e)
  | ended {e : SyntaxError} (he : e.IsAtEnd tokens) : Advances tokens pos (.error e)

namespace Cursor

variable {expected : String} {kind? : Option Kind}

lemma missing_isAt {t : Token} (ht : tokens[pos]? = some t) :
    (missing ⟨tokens, pos⟩ expected kind?).IsAt tokens pos := by
  have hmissing : missing ⟨tokens, pos⟩ expected kind? = .unexpectedToken expected t kind? := by
    rw [missing, token?, ht]
  rw [hmissing]
  exact ⟨rfl, t, ht, rfl, rfl⟩

lemma missing_isAtEnd (h : tokens.length ≤ pos) :
    (missing ⟨tokens, pos⟩ expected kind?).IsAtEnd tokens := by
  have hmissing : missing ⟨tokens, pos⟩ expected kind? =
      .unexpectedEnd expected (endOfTokens tokens) kind? := by
    rw [missing, token?, List.getElem?_eq_none h]
  rw [hmissing]
  refine ⟨rfl, rfl, ?_⟩
  cases endOfTokens tokens <;> rfl

lemma advances_missing {k : Nat} (h : pos ≤ k ∨ tokens.length ≤ k) :
    Advances tokens pos (.error (missing ⟨tokens, k⟩ expected kind?)) := by
  by_cases hk : k < tokens.length
  · have hpos : pos ≤ k := h.resolve_right (Nat.not_le.2 hk)
    exact .refused hpos (missing_isAt (List.getElem?_eq_getElem hk))
  · exact .ended (missing_isAtEnd (Nat.not_lt.1 hk))

lemma advances_over {read : List Kind → Except Stuck (List Kind)}
    (h : Forward (kinds ⟨tokens, pos⟩) (read (kinds ⟨tokens, pos⟩))) :
    Advances tokens pos (Cursor.over read ⟨tokens, pos⟩) := by
  have hlength : (kinds ⟨tokens, pos⟩).length = tokens.length - pos := by
    rw [kinds, List.length_map, List.length_drop]
  rw [Cursor.over]
  generalize read (kinds ⟨tokens, pos⟩) = outcome at h ⊢
  cases h with
  | @read rest hrest =>
    have hpos : pos < tokens.length - rest.length := by omega
    exact .read hpos (Nat.sub_le _ _)
  | @stuck place hunread =>
    have hpos : pos ≤ tokens.length - place.unread.length ∨
        tokens.length ≤ tokens.length - place.unread.length := by omega
    exact advances_missing hpos

lemma advances_overExpression (tokens : List Token) (pos : Nat) :
    Advances tokens pos (overExpression ⟨tokens, pos⟩) :=
  advances_over (.expression _)

lemma advances_overHeader (tokens : List Token) (pos : Nat) :
    Advances tokens pos (overHeader ⟨tokens, pos⟩) :=
  advances_over (.header _)

lemma advances_read (tokens : List Token) (pos : Nat) (kind : Kind) (expected : String) :
    Advances tokens pos (read ⟨tokens, pos⟩ kind expected) := by
  rw [read]
  split_ifs with hat
  · have hpos : pos < tokens.length := by
      by_contra hpast
      rw [isAt, isAtAny, token?, List.getElem?_eq_none (Nat.not_lt.1 hpast)] at hat
      cases hat
    exact .read (Nat.lt_succ_self pos) hpos
  · exact advances_missing (.inl (Nat.le_refl pos))

end Cursor

/-- Past the end there is nothing to be moved over. -/
lemma Advances.exists_isAtEnd {outcome : Except SyntaxError Cursor}
    (h : Advances tokens pos outcome) (hpos : tokens.length ≤ pos) :
    ∃ e, outcome = .error e ∧ e.IsAtEnd tokens := by
  cases h with
  | read hlt hle => omega
  | @refused k e hk he =>
    obtain ⟨t, ht, -⟩ := he.token
    have := (List.getElem?_eq_some_iff.1 ht).1
    omega
  | ended he => exact ⟨_, rfl, he⟩

/-! ### Rounds -/

/-- The loop over statements goes on from a boundary to another one. -/
def Round (tokens : List Token) (i j : Nat) : Prop :=
  ∃ n b m c, Passes tokens i n b ∧ Passes tokens j m c ∧
    (⟨n, b, (tokens.drop i).map Token.kind⟩ : ProgramState).step =
      .next ⟨m, c, (tokens.drop j).map Token.kind⟩

namespace Passes

open ProgramState

/-- A round that goes on comes to a later boundary. -/
lemma exists_next {t : ProgramState} (h : Passes tokens i n b)
    (ht : (⟨n, b, (tokens.drop i).map Token.kind⟩ : ProgramState).step = .next t) :
    ∃ j, i < j ∧ j ≤ tokens.length ∧ t.rest = (tokens.drop j).map Token.kind ∧
      Passes tokens j t.statements t.blocks := by
  obtain ⟨j, hrest, hj⟩ := of_moves (h.moves.tail (.of_step ht))
  have hlength := length_lt_of_step ht
  simp only [hrest, List.length_map, List.length_drop] at hlength
  exact ⟨j, by omega, hj.le_length, hrest, hj⟩

/-- The loop comes to the end of a program. -/
lemma of_countStatements (h : countStatements tokens = .ok n) :
    Passes tokens tokens.length n 0 := by
  refine of_moves_drop (Nat.le_refl _) ?_
  rw [List.drop_length]
  exact moves_of_run (countStatements_eq_ok_iff.1 h)

/-- The tokens before a boundary are gone over in rounds. -/
lemma exists_round_over (h : Passes tokens j n b) :
    ∀ k < j, ∃ i i', Round tokens i i' ∧ i ≤ k ∧ k < i' := by
  refine rounds (P := fun j _ _ => ∀ k < j, ∃ i i', Round tokens i i' ∧ i ≤ k ∧ k < i') ?_ ?_ h
  · intro k hk
    exact absurd hk (Nat.not_lt_zero k)
  · intro i j n b m c hi hj hmove ih k hk
    rcases Nat.lt_or_ge k i with hbefore | hbehind
    · exact ih k hbefore
    · exact ⟨i, j, ⟨n, b, m, c, hi, hj, hmove.step⟩, hbehind, hk⟩

end Passes

namespace Round

open ProgramState

variable {k i' j' : Nat}

/-- No two rounds go over one token. -/
lemma unique (h : Round tokens i j) (h' : Round tokens i' j') (hi : i ≤ k) (hj : k < j)
    (hi' : i' ≤ k) (hj' : k < j') : i = i' ∧ j = j' := by
  obtain ⟨n, b, m, c, hfirst, hlast, hstep⟩ := h
  obtain ⟨n', b', m', c', hfirst', hlast', hstep'⟩ := h'
  have hle := hfirst.le_or_le_of_round hlast (.of_step hstep) hfirst'
  have hle' := hfirst'.le_or_le_of_round hlast' (.of_step hstep') hfirst
  obtain rfl : i = i' := by omega
  obtain ⟨rfl, rfl⟩ := hfirst.unique hfirst'
  have hlength := congrArg (fun s => s.rest.length) (ProgramStep.next.inj (hstep.symm.trans hstep'))
  have := hlast.le_length
  have := hlast'.le_length
  simp only [List.length_map, List.length_drop] at hlength
  exact ⟨rfl, by omega⟩

end Round

namespace ProgramState

/-- Reads a program to its end, if so many rounds are enough. -/
def runWithin : Nat → ProgramState → Option (Except Stuck Nat)
  | 0, _ => none
  | rounds + 1, s =>
    match s.step with
    | .next s' => runWithin rounds s'
    | .accepted statements => some (.ok statements)
    | .stuck place => some (.error place)

/-- One round for each token, and one that ends the loop, are enough. -/
theorem runWithin_eq_run {rounds : Nat} {s : ProgramState} (h : s.rest.length < rounds) :
    s.runWithin rounds = some s.run := by
  induction rounds generalizing s with
  | zero => exact absurd h (Nat.not_lt_zero _)
  | succ rounds ih =>
    rw [runWithin]
    cases hstep : s.step with
    | next s' =>
      have hlength := length_lt_of_step hstep
      rw [run_of_next hstep]
      exact ih (by omega)
    | accepted statements => rw [run_of_accepted hstep]
    | stuck place => rw [run_of_stuck hstep]

end ProgramState

/-- From every position, also past the end, a cursor is moved forward over an expression, over the
part of a loop before its statements and over a single token, or there is an error about a token
from there on, or about the end; past the end it is always about the end. So the loop over
statements stands at boundaries only, each round that goes on comes to a later one, and one round
more than there are tokens is enough to end the loop. Over each token of a program goes exactly one
round. -/
theorem recognition_moves_forward (tokens : List Token) :
    (∀ pos, Advances tokens pos (Cursor.overExpression ⟨tokens, pos⟩) ∧
      Advances tokens pos (Cursor.overHeader ⟨tokens, pos⟩) ∧
      ∀ kind expected, Advances tokens pos (Cursor.read ⟨tokens, pos⟩ kind expected)) ∧
    (∀ pos, tokens.length ≤ pos →
      (∃ e, Cursor.overExpression ⟨tokens, pos⟩ = .error e ∧ e.IsAtEnd tokens) ∧
      (∃ e, Cursor.overHeader ⟨tokens, pos⟩ = .error e ∧ e.IsAtEnd tokens) ∧
      ∀ kind expected,
        ∃ e, Cursor.read ⟨tokens, pos⟩ kind expected = .error e ∧ e.IsAtEnd tokens) ∧
    (∀ s, ReflTransGen (fun s t : ProgramState => s.step = .next t)
        (.start (tokens.map Token.kind)) s →
      ∃ pos ≤ tokens.length, s.rest = (tokens.drop pos).map Token.kind ∧
        Passes tokens pos s.statements s.blocks ∧
        ∀ t, s.step = .next t → ∃ q, pos < q ∧ q ≤ tokens.length ∧
          t.rest = (tokens.drop q).map Token.kind ∧ Passes tokens q t.statements t.blocks) ∧
    (ProgramState.start (tokens.map Token.kind)).runWithin (tokens.length + 1) =
      some (readProgram (tokens.map Token.kind)) ∧
    ∀ n, countStatements tokens = .ok n → Passes tokens tokens.length n 0 ∧
      ∀ k < tokens.length, ∃! r : Nat × Nat, Round tokens r.1 r.2 ∧ r.1 ≤ k ∧ k < r.2 := by
  refine ⟨?_, ?_, ?_, ?_, ?_⟩
  · intro pos
    exact ⟨Cursor.advances_overExpression tokens pos, Cursor.advances_overHeader tokens pos,
      Cursor.advances_read tokens pos⟩
  · intro pos hpos
    exact ⟨(Cursor.advances_overExpression tokens pos).exists_isAtEnd hpos,
      (Cursor.advances_overHeader tokens pos).exists_isAtEnd hpos,
      fun kind expected => (Cursor.advances_read tokens pos kind expected).exists_isAtEnd hpos⟩
  · intro s hs
    obtain ⟨pos, hrest, hpos⟩ := Passes.of_moves (ProgramState.reached_iff_moves.1 hs)
    refine ⟨pos, hpos.le_length, hrest, hpos, fun t ht => ?_⟩
    obtain ⟨statements, blocks, ks⟩ := s
    obtain rfl := hrest
    exact hpos.exists_next ht
  · refine ProgramState.runWithin_eq_run ?_
    rw [ProgramState.start, List.length_map]
    exact Nat.lt_succ_self _
  · intro n hn
    have hend := Passes.of_countStatements hn
    refine ⟨hend, fun k hk => ?_⟩
    obtain ⟨i, j, hround, hi, hj⟩ := hend.exists_round_over k hk
    refine ⟨(i, j), ⟨hround, hi, hj⟩, ?_⟩
    rintro ⟨i', j'⟩ ⟨hround', hi', hj'⟩
    obtain ⟨rfl, rfl⟩ := hround.unique hround' hi hj hi' hj'
    rfl

/-- Over the name in the head of a loop goes one round, and behind its block there is nothing to be
moved over. -/
theorem recognition_moves_forward_loop :
    let tokens := readTokens .anywhere unnamed "while (a) \x7b \x7d"
    countStatements tokens = .ok 1 ∧ tokens.length = 6 ∧ Passes tokens 6 1 0 ∧
      (∃! r : Nat × Nat, Round tokens r.1 r.2 ∧ r.1 ≤ 2 ∧ 2 < r.2) ∧
      ∃ e, Cursor.overExpression ⟨tokens, 7⟩ = .error e ∧ e.IsAtEnd tokens := by
  intro tokens
  have hcount : countStatements tokens = .ok 1 := by decide +kernel
  have hlength : tokens.length = 6 := by decide +kernel
  obtain ⟨-, hpast, -, -, hprogram⟩ := recognition_moves_forward tokens
  obtain ⟨hend, hrounds⟩ := hprogram 1 hcount
  rw [hlength] at hend hrounds
  exact ⟨hcount, hlength, hend, hrounds 2 (by decide), (hpast 7 (by omega)).1⟩

end BoolWhile
