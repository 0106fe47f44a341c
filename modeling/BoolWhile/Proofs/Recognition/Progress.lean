import BoolWhile.Proofs.Recognition.Steps

/-!
# Reading a program token by token

The loops of recognition read whole expressions and headers at a time. Here the same recognition
is cut into single tokens: after any tokens, how far a program is read is a `Progress`, and one
more token leads to one more `Progress` or is refused with the construct that is missing in front
of it. Both ways of reading agree (`readProgram_eq_run`).

Two facts follow from the shape of the steps alone. What is read of a text does not depend on what
stands behind it (`run_append`), and every progress can be completed to a program
(`run_completion`).
-/

namespace BoolWhile

/-- What a program goes on with. -/
inductive Stage
  /-- A statement, or the end of the innermost block. -/
  | between
  /-- An expression that is a statement, or what stands behind it. -/
  | expression (e : ExpressionState)
  /-- The parenthesis before a condition. -/
  | openCondition
  /-- A condition, or the parenthesis behind it. -/
  | condition (e : ExpressionState)
  /-- The brace before the statements of a loop. -/
  | openBlock
  deriving DecidableEq, Repr

/-- How far a program is read between any two tokens of it. -/
structure Progress where
  statements : Nat
  blocks : Nat
  stage : Stage
  deriving DecidableEq, Repr

namespace Progress

/-- The progress before a program. -/
def start : Progress := ⟨0, 0, .between⟩

/-- Reads a token between two statements. -/
def begin (statements blocks : Nat) (k : Kind) : Except Construct Progress :=
  let begun := if blocks = 0 then statements + 1 else statements
  if blocks ≠ 0 ∧ k = .rightBrace then .ok ⟨statements, blocks - 1, .between⟩
  else if k = .whileWord then .ok ⟨begun, blocks, .openCondition⟩
  else
    match ExpressionState.start.move k with
    | .take e => .ok ⟨begun, blocks, .expression e⟩
    | .finish => .error .expression
    | .stuck construct => .error construct

/-- Reads a token that has to be the one of a construct. -/
def require (construct : Construct) (next : Progress) (k : Kind) : Except Construct Progress :=
  if construct.kind? = some k then .ok next else .error construct

/-- Reads a token, or tells what is missing in front of it. -/
def step (s : Progress) (k : Kind) : Except Construct Progress :=
  match s.stage with
  | .between => begin s.statements s.blocks k
  | .expression e =>
    match e.move k with
    | .take e => .ok { s with stage := .expression e }
    | .finish => begin s.statements s.blocks k
    | .stuck construct => .error construct
  | .openCondition => require .openCondition { s with stage := .condition .start } k
  | .condition e =>
    match e.move k with
    | .take e => .ok { s with stage := .condition e }
    | .finish => require .closeCondition { s with stage := .openBlock } k
    | .stuck construct => .error construct
  | .openBlock => require .openBlock ⟨s.statements, s.blocks + 1, .between⟩ k

/-- What is missing where the tokens end between two statements. -/
def missingBetween (blocks : Nat) : Option Construct := if blocks = 0 then none else some .closeBlock

/-- What is missing where the tokens end. -/
def missing? (s : Progress) : Option Construct :=
  match s.stage with
  | .between => missingBetween s.blocks
  | .expression e => e.missing? <|> missingBetween s.blocks
  | .openCondition => some .openCondition
  | .condition e => e.missing? <|> some .closeCondition
  | .openBlock => some .openBlock

/-- Reads a program on to its end. -/
def run (s : Progress) : List Kind → Except Stuck Nat
  | [] =>
    match s.missing? with
    | none => .ok s.statements
    | some construct => .error ⟨construct, []⟩
  | k :: ks =>
    match s.step k with
    | .ok s => run s ks
    | .error construct => .error ⟨construct, k :: ks⟩

/-- The progress behind some tokens, unless one of them is refused. -/
def reach? (s : Progress) : List Kind → Option Progress
  | [] => some s
  | k :: ks =>
    match s.step k with
    | .ok s => reach? s ks
    | .error _ => none

variable {s t : Progress} {statements blocks : Nat} {k : Kind} {ks xs ys : List Kind}
  {construct : Construct}

lemma require_ok {next : Progress} (h : require construct next k = .ok t) :
    construct.kind? = some k ∧ t = next := by
  rw [require] at h
  split_ifs at h with hkind
  exact ⟨hkind, (Except.ok.inj h).symm⟩

lemma require_error {missing : Construct} {next : Progress}
    (h : require missing next k = .error construct) : construct = missing := by
  rw [require] at h
  split_ifs at h
  exact (Except.error.inj h).symm

lemma run_ok (h : s.step k = .ok t) : s.run (k :: ks) = t.run ks := by
  rw [run, h]

lemma run_error (h : s.step k = .error construct) :
    s.run (k :: ks) = .error ⟨construct, k :: ks⟩ := by
  rw [run, h]

lemma run_nil_none (h : s.missing? = none) : s.run [] = .ok s.statements := by
  rw [run, h]

lemma run_nil_some (h : s.missing? = some construct) : s.run [] = .error ⟨construct, []⟩ := by
  rw [run, h]

lemma reach?_ok (h : s.step k = .ok t) : s.reach? (k :: ks) = t.reach? ks := by
  rw [reach?, h]

/-- What is read behind a token is read behind one step. -/
lemma exists_of_reach?_cons (h : s.reach? (k :: ks) = some t) :
    ∃ u, s.step k = .ok u ∧ u.reach? ks = some t := by
  rw [reach?] at h
  cases hstep : s.step k with
  | ok u => exact ⟨u, rfl, by simpa [hstep] using h⟩
  | error construct => simp [hstep] at h

/-! ### Both ways of reading agree -/

/-- An expression is read at once, and the next token is looked at behind it. -/
lemma run_expression {e : ExpressionState} :
    (⟨statements, blocks, .expression e⟩ : Progress).run ks =
      e.read ks >>= (⟨statements, blocks, .between⟩ : Progress).run := by
  induction ks generalizing e with
  | nil =>
    rw [ExpressionState.read]
    cases h : e.missing? <;> simp [run, missing?, h]
  | cons k ks ih =>
    rw [ExpressionState.read]
    cases h : e.move k with
    | take e' =>
      rw [run_ok (t := ⟨statements, blocks, .expression e'⟩) (by simp [step, h]), ih]
    | finish => simp [run, step, h]
    | stuck construct => simp [run, step, h]

/-- A construct of one token is read by one step. -/
lemma run_require {next : Progress} (hstep : ∀ k, s.step k = require construct next k)
    (hmissing : s.missing? = some construct) : s.run ks = construct.read ks >>= next.run := by
  cases ks with
  | nil => simp [run_nil_some hmissing, Construct.read]
  | cons k ks =>
    by_cases hk : construct.kind? = some k <;>
      simp [run, hstep, require, Construct.read, hk]

/-- A condition is read at once, and the token that closes it is looked for behind it. -/
lemma run_condition {e : ExpressionState} :
    (⟨statements, blocks, .condition e⟩ : Progress).run ks =
      e.read ks >>= Construct.closeCondition.read >>=
        (⟨statements, blocks, .openBlock⟩ : Progress).run := by
  induction ks generalizing e with
  | nil =>
    rw [ExpressionState.read]
    cases h : e.missing? <;> simp [run, missing?, h, Construct.read]
  | cons k ks ih =>
    rw [ExpressionState.read]
    cases h : e.move k with
    | take e' =>
      rw [run_ok (t := ⟨statements, blocks, .condition e'⟩) (by simp [step, h]), ih]
    | finish =>
      by_cases hk : Construct.closeCondition.kind? = some k <;>
        simp [run, step, h, Construct.read, require, hk]
    | stuck construct => simp [run, step, h]

/-- The part of a loop before its statements is read at once. -/
lemma run_between_while :
    (⟨statements, blocks, .between⟩ : Progress).run (.whileWord :: ks) =
      readHeader (.whileWord :: ks) >>=
        (⟨if blocks = 0 then statements + 1 else statements, blocks + 1, .between⟩ :
          Progress).run := by
  generalize hbegun : (if blocks = 0 then statements + 1 else statements) = begun
  have hkeyword : Construct.whileKeyword.read (.whileWord :: ks) = .ok ks := rfl
  have hopenBlock : (⟨begun, blocks, .openBlock⟩ : Progress).run =
      fun ks => Construct.openBlock.read ks >>= (⟨begun, blocks + 1, .between⟩ : Progress).run :=
    funext fun ks => run_require (fun _ => rfl) rfl
  have hopenCondition : (⟨begun, blocks, .openCondition⟩ : Progress).run ks =
      Construct.openCondition.read ks >>= (⟨begun, blocks, .condition .start⟩ : Progress).run :=
    run_require (fun _ => rfl) rfl
  rw [run_ok (t := ⟨begun, blocks, .openCondition⟩) (by simp [step, begin, hbegun]),
    hopenCondition, readHeader, hkeyword]
  simp only [ok_bind, bind_assoc]
  refine congrArg _ (funext fun rest => ?_)
  rw [run_condition, hopenBlock, bind_assoc]
  rfl

/-- A statement that is an expression is read at once. -/
lemma run_between_expression (hk : k ≠ .whileWord) (hclose : blocks = 0 ∨ k ≠ .rightBrace) :
    (⟨statements, blocks, .between⟩ : Progress).run (k :: ks) =
      readExpression (k :: ks) >>=
        (⟨if blocks = 0 then statements + 1 else statements, blocks, .between⟩ :
          Progress).run := by
  have hclose' : ¬(blocks ≠ 0 ∧ k = .rightBrace) := by
    rintro ⟨hblocks, hbrace⟩
    rcases hclose with h | h
    · exact hblocks h
    · exact h hbrace
  -- The first token belongs to the expression on both sides, so only the rest is read at once.
  rw [run, readExpression, ExpressionState.read]
  cases h : ExpressionState.start.move k with
  | take e => simp [step, begin, hclose', hk, h, run_expression]
  | finish => exact absurd h ExpressionState.move_start_ne_finish
  | stuck construct => simp [step, begin, hclose', hk, h]

/-- Between two statements, both ways of reading agree. -/
lemma run_between (statements blocks : Nat) (ks : List Kind) :
    (⟨statements, blocks, .between⟩ : Progress).run ks =
      (⟨statements, blocks, ks⟩ : ProgramState).run := by
  match ks with
  | [] => cases blocks <;> simp [run, missing?, missingBetween]
  | k :: ks =>
    by_cases hclose : blocks = 0 ∨ k ≠ .rightBrace
    · by_cases hk : k = .whileWord
      · subst hk
        rw [run_between_while, ProgramState.run_while]
        cases hread : readHeader (.whileWord :: ks) with
        | error => rfl
        | ok rest =>
          rw [ok_bind, ok_bind]
          exact run_between _ _ rest
      · rw [run_between_expression hk hclose, ProgramState.run_expression hk hclose]
        cases hread : readExpression (k :: ks) with
        | error => rfl
        | ok rest =>
          rw [ok_bind, ok_bind]
          exact run_between _ _ rest
    · push Not at hclose
      obtain ⟨hblocks, rfl⟩ := hclose
      obtain ⟨blocks, rfl⟩ := Nat.exists_eq_succ_of_ne_zero hblocks
      rw [ProgramState.run_closeBlock, run_ok (t := ⟨statements, blocks, .between⟩) rfl]
      exact run_between statements blocks ks
termination_by ks.length
decreasing_by
  · have hlt := length_lt_of_readHeader hread
    exact hlt
  · exact length_lt_of_readExpression hread
  · exact Nat.lt_succ_self _

/-- Reading token by token is reading. -/
theorem readProgram_eq_run : readProgram ks = start.run ks := (run_between 0 0 ks).symm

/-! ### Reading on -/

/-- What is read of some tokens does not depend on what stands behind them. -/
theorem run_append (h : s.reach? xs = some t) : s.run (xs ++ ys) = t.run ys := by
  induction xs generalizing s with
  | nil =>
    obtain rfl := Option.some.inj h
    rfl
  | cons k xs ih =>
    obtain ⟨u, hstep, hu⟩ := exists_of_reach?_cons h
    rw [List.cons_append, run_ok hstep]
    exact ih hu

lemma reach?_append (h : s.reach? xs = some t) : s.reach? (xs ++ ys) = t.reach? ys := by
  induction xs generalizing s with
  | nil =>
    obtain rfl := Option.some.inj h
    rfl
  | cons k xs ih =>
    obtain ⟨u, hstep, hu⟩ := exists_of_reach?_cons h
    rw [List.cons_append, reach?_ok hstep]
    exact ih hu

/-- Either all tokens are read, or one of them is the first that is refused. -/
theorem exists_reach? (s : Progress) (ks : List Kind) :
    (∃ t, s.reach? ks = some t) ∨
      ∃ xs k ys t construct,
        ks = xs ++ k :: ys ∧ s.reach? xs = some t ∧ t.step k = .error construct := by
  induction ks generalizing s with
  | nil => exact .inl ⟨s, rfl⟩
  | cons k ks ih =>
    cases hstep : s.step k with
    | error construct => exact .inr ⟨[], k, ks, s, construct, rfl, rfl, hstep⟩
    | ok u =>
      rcases ih u with ⟨t, ht⟩ | ⟨xs, l, ys, t, construct, rfl, ht, hl⟩
      · exact .inl ⟨t, by rw [reach?_ok hstep, ht]⟩
      · exact .inr ⟨k :: xs, l, ys, t, construct, rfl, by rw [reach?_ok hstep, ht], hl⟩

/-- The tokens that are not read are the last ones. -/
lemma unread_suffix {place : Stuck} (h : s.run ks = .error place) : place.unread <:+ ks := by
  induction ks generalizing s with
  | nil =>
    cases hmissing : s.missing? with
    | none => simp [run_nil_none hmissing] at h
    | some construct =>
      rw [run_nil_some hmissing] at h
      obtain rfl := Except.error.inj h
      exact List.suffix_rfl
  | cons k ks ih =>
    cases hstep : s.step k with
    | ok t =>
      rw [run_ok hstep] at h
      exact (ih h).trans (List.suffix_cons k ks)
    | error construct =>
      rw [run_error hstep] at h
      obtain rfl := Except.error.inj h
      exact List.suffix_rfl

end Progress

/-! ### Completing a program -/

/-- The fewest tokens that end an expression. -/
def ExpressionState.completion : ExpressionState → List Kind
  | ⟨.operand, groups⟩ => .identifier :: List.replicate groups .rightParen
  | ⟨.operator, groups⟩ => List.replicate groups .rightParen

lemma ExpressionState.read_completion {e : ExpressionState} {rest : List Kind}
    (h : EndsExpression rest) : e.read (e.completion ++ rest) = .ok rest := by
  obtain ⟨awaiting, groups⟩ := e
  have hclose :
      read ⟨.operator, groups⟩ (List.replicate groups .rightParen ++ rest) = .ok rest := by
    have hgroups := read_rightParens 0 groups rest
    rwa [Nat.zero_add, read_operator_zero h] at hgroups
  cases awaiting with
  | operator => exact hclose
  | operand =>
    rw [completion, List.cons_append, read_literal rfl]
    exact hclose

namespace Progress

/-- The fewest tokens that end a program. -/
def completion (s : Progress) : List Kind :=
  match s.stage with
  | .between => List.replicate s.blocks .rightBrace
  | .expression e => e.completion ++ List.replicate s.blocks .rightBrace
  | .openCondition =>
    .leftParen :: .identifier :: .rightParen :: .leftBrace ::
      List.replicate (s.blocks + 1) .rightBrace
  | .condition e =>
    e.completion ++ .rightParen :: .leftBrace :: List.replicate (s.blocks + 1) .rightBrace
  | .openBlock => .leftBrace :: List.replicate (s.blocks + 1) .rightBrace

variable {s : Progress} {statements blocks : Nat}

lemma run_rightBraces :
    (⟨statements, blocks, .between⟩ : Progress).run (List.replicate blocks .rightBrace) =
      .ok statements := by
  have hblocks := ProgramState.run_rightBraces statements 0 blocks []
  rw [List.append_nil, Nat.zero_add, ProgramState.run_nil] at hblocks
  rw [run_between, hblocks]

/-- The completion of a program is one, and adds no statement outside all blocks. -/
theorem run_completion (s : Progress) : s.run s.completion = .ok s.statements := by
  obtain ⟨statements, blocks, stage⟩ := s
  have hblock : (⟨statements, blocks, .openBlock⟩ : Progress).run
      (.leftBrace :: List.replicate (blocks + 1) .rightBrace) = .ok statements := by
    rw [run_ok (t := ⟨statements, blocks + 1, .between⟩) rfl]
    exact run_rightBraces
  cases stage with
  | between => exact run_rightBraces
  | expression e =>
    rw [completion, run_expression, ExpressionState.read_completion, ok_bind]
    · exact run_rightBraces
    · exact endsExpression_rightBraces blocks
  | openCondition =>
    rw [completion, run_ok (t := ⟨statements, blocks, .condition .start⟩) rfl,
      run_ok (t := ⟨statements, blocks, .condition ⟨.operator, 0⟩⟩) rfl,
      run_ok (t := ⟨statements, blocks, .openBlock⟩) rfl]
    exact hblock
  | condition e =>
    rw [completion, run_condition, ExpressionState.read_completion (endsExpression_cons.2 rfl)]
    exact hblock
  | openBlock => exact hblock

end Progress

end BoolWhile
