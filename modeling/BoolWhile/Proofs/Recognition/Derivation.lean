import BoolWhile.Grammar
import BoolWhile.Proofs.Recognition.Steps

/-!
# Syntax trees are recognized

The loops read over the tokens of a part of a tree, whatever the operators on the way, and are
behind it with the same counters. This goes by induction on the tree.
-/

namespace BoolWhile

namespace Grammar

/-- A sequence of kinds is derived from the rules as a program of `n` statements. -/
def Derives (kinds : List Kind) (n : Nat) : Prop :=
  ∃ p : Statements, p.tokens.map Token.kind = kinds ∧ p.length = n

variable {statements blocks groups : Nat} {rest : List Kind}

/-! ### Trees are read -/

mutual

lemma read_primary (e : Primary) (groups : Nat) (rest : List Kind) :
    ExpressionState.read ⟨.operand, groups⟩ (e.tokens.map Token.kind ++ rest) =
      ExpressionState.read ⟨.operator, groups⟩ rest := by
  match e with
  | .literal t => exact ExpressionState.read_literal t.2
  | .group opening e closing =>
    have hinner := read_orExpression e (groups + 1) (.rightParen :: rest)
    simp only [Primary.tokens, List.map_append, List.map_cons, List.map_nil, List.append_assoc,
      List.cons_append, List.nil_append, opening.2, closing.2]
    rw [ExpressionState.read_leftParen, hinner, ExpressionState.read_rightParen]

lemma read_notExpression (e : NotExpression) (groups : Nat) (rest : List Kind) :
    ExpressionState.read ⟨.operand, groups⟩ (e.tokens.map Token.kind ++ rest) =
      ExpressionState.read ⟨.operator, groups⟩ rest := by
  match e with
  | .primary e => exact read_primary e groups rest
  | .not op e =>
    rw [NotExpression.tokens, List.map_cons, List.cons_append, op.2, ExpressionState.read_not]
    exact read_notExpression e groups rest

lemma read_relExpression (e : RelExpression) (groups : Nat) (rest : List Kind) :
    ExpressionState.read ⟨.operand, groups⟩ (e.tokens.map Token.kind ++ rest) =
      ExpressionState.read ⟨.operator, groups⟩ rest := by
  match e with
  | .one e => exact read_notExpression e groups rest
  | .more left op right =>
    have hop : op.1.kind.isBinary = true := Kind.isBinary_of_isRelational op.2
    rw [RelExpression.tokens, List.map_append, List.append_assoc, read_relExpression left,
      List.map_cons, List.cons_append, ExpressionState.read_binary hop]
    exact read_notExpression right groups rest

lemma read_andExpression (e : AndExpression) (groups : Nat) (rest : List Kind) :
    ExpressionState.read ⟨.operand, groups⟩ (e.tokens.map Token.kind ++ rest) =
      ExpressionState.read ⟨.operator, groups⟩ rest := by
  match e with
  | .one e => exact read_relExpression e groups rest
  | .more left op right =>
    rw [AndExpression.tokens, List.map_append, List.append_assoc, read_andExpression left,
      List.map_cons, List.cons_append, op.2, ExpressionState.read_binary rfl]
    exact read_relExpression right groups rest

lemma read_orExpression (e : OrExpression) (groups : Nat) (rest : List Kind) :
    ExpressionState.read ⟨.operand, groups⟩ (e.tokens.map Token.kind ++ rest) =
      ExpressionState.read ⟨.operator, groups⟩ rest := by
  match e with
  | .one e => exact read_andExpression e groups rest
  | .more left op right =>
    rw [OrExpression.tokens, List.map_append, List.append_assoc, read_orExpression left,
      List.map_cons, List.cons_append, op.2, ExpressionState.read_binary rfl]
    exact read_andExpression right groups rest

end

/-- An expression is read up to a token that does not continue it. -/
theorem readExpression_tokens (e : Expression) (h : EndsExpression rest) :
    readExpression (e.tokens.map Token.kind ++ rest) = .ok rest := by
  rw [readExpression, ExpressionState.start, read_orExpression]
  exact ExpressionState.read_operator_zero h

theorem readHeader_tokens (h : Header) (rest : List Kind) :
    readHeader (h.tokens.map Token.kind ++ rest) = .ok rest := by
  have hcondition :
      readExpression (h.condition.tokens.map Token.kind ++ .rightParen :: .leftBrace :: rest) =
        .ok (.rightParen :: .leftBrace :: rest) :=
    readExpression_tokens h.condition (endsExpression_cons.2 rfl)
  simp only [Header.tokens, List.map_append, List.map_cons, List.map_nil, List.append_assoc,
    List.cons_append, List.nil_append, h.keyword.2, h.openCondition.2, h.closeCondition.2,
    h.openBlock.2]
  rw [readHeader]
  simp [Construct.read, Construct.kind?, hcondition]

/-- The first token of an expression. -/
lemma exists_begin (e : Expression) (rest : List Kind) :
    ∃ k ks, e.tokens.map Token.kind ++ rest = k :: ks ∧
      (k = .logicalNot ∨ k = .leftParen ∨ k.isLiteral = true) := by
  have hread := readExpression_tokens e endsExpression_nil
  rw [List.append_nil] at hread
  cases hkinds : e.tokens.map Token.kind with
  | nil =>
    rw [hkinds] at hread
    simp [readExpression, ExpressionState.start, ExpressionState.read_operand_nil] at hread
  | cons k ks =>
    rw [hkinds] at hread
    exact ⟨k, ks ++ rest, rfl, begins_of_readExpression hread⟩

/-- A statement does not continue an expression in front of it. -/
lemma endsExpression_statement (s : Statement) (rest : List Kind) :
    EndsExpression (s.tokens.map Token.kind ++ rest) := by
  cases s with
  | expression e =>
    obtain ⟨k, ks, hkinds, hk⟩ := exists_begin e rest
    rw [Statement.tokens, hkinds]
    exact endsExpression_cons.2 (Kind.isBinary_of_begins hk)
  | loop header body closeBlock =>
    refine endsExpression_cons.2 ?_
    rw [header.keyword.2]
    rfl

lemma endsExpression_statements (p : Statements) (h : EndsExpression rest) :
    EndsExpression (p.tokens.map Token.kind ++ rest) := by
  cases p with
  | nil => exact h
  | cons first more =>
    rw [Statements.tokens, List.map_append, List.append_assoc]
    exact endsExpression_statement first _

/-- A loop is gone into. -/
lemma step_header (header : Header) (statements blocks : Nat) (rest : List Kind) :
    (⟨statements, blocks, header.tokens.map Token.kind ++ rest⟩ : ProgramState).step =
      .next ⟨if blocks = 0 then statements + 1 else statements, blocks + 1, rest⟩ := by
  have hheader := readHeader_tokens header rest
  have hkinds : header.tokens.map Token.kind ++ rest =
      .whileWord :: ((header.tokens.map Token.kind).tail ++ rest) := by
    rw [Header.tokens, List.cons_append, List.map_cons, header.keyword.2]
    rfl
  rw [hkinds] at hheader ⊢
  rw [ProgramState.step_eq_beginStatement (by simp), ProgramState.beginStatement,
    if_pos (by simp), hheader]
  rfl

/-- An expression is gone over. -/
lemma step_expression (e : Expression) (statements blocks : Nat) (h : EndsExpression rest) :
    (⟨statements, blocks, e.tokens.map Token.kind ++ rest⟩ : ProgramState).step =
      .next ⟨if blocks = 0 then statements + 1 else statements, blocks, rest⟩ := by
  obtain ⟨k, ks, hkinds, hk⟩ := exists_begin e rest
  have hread := readExpression_tokens e h
  have hbegin : k ≠ .whileWord ∧ k ≠ .rightBrace := by
    rcases hk with rfl | rfl | hk
    · decide
    · decide
    · constructor <;> rintro rfl <;> simp [Kind.isLiteral] at hk
  rw [hkinds] at hread ⊢
  rw [ProgramState.step_eq_beginStatement (.inr hbegin.2), ProgramState.beginStatement,
    if_neg (by simpa using hbegin.1), hread]
  rfl

mutual

lemma run_statement (s : Statement) (statements blocks : Nat) {rest : List Kind}
    (h : EndsExpression rest) :
    (⟨statements, blocks, s.tokens.map Token.kind ++ rest⟩ : ProgramState).run =
      (⟨if blocks = 0 then statements + 1 else statements, blocks, rest⟩ : ProgramState).run := by
  match s with
  | .expression e => exact ProgramState.run_of_next (step_expression e statements blocks h)
  | .loop header body closeBlock =>
    -- The brace that closes the block keeps its last statement from going on.
    have hclose : EndsExpression (.rightBrace :: rest) := endsExpression_cons.2 rfl
    simp only [Statement.tokens, List.map_append, List.map_cons, List.map_nil,
      List.append_assoc, List.cons_append, List.nil_append, closeBlock.2]
    rw [ProgramState.run_of_next (step_header header statements blocks _),
      run_statements body _ (blocks + 1) hclose, if_neg (Nat.succ_ne_zero blocks),
      ProgramState.run_closeBlock]

lemma run_statements (p : Statements) (statements blocks : Nat) {rest : List Kind}
    (h : EndsExpression rest) :
    (⟨statements, blocks, p.tokens.map Token.kind ++ rest⟩ : ProgramState).run =
      (⟨if blocks = 0 then statements + p.length else statements, blocks, rest⟩ :
        ProgramState).run := by
  match p with
  | .nil => simp [Statements.tokens, Statements.length]
  | .cons first more =>
    have hmore := endsExpression_statements more h
    rw [Statements.tokens, List.map_append, List.append_assoc, run_statement first _ _ hmore,
      run_statements more _ _ h, Statements.length]
    split_ifs
    · rw [Nat.add_assoc, Nat.add_comm 1]
    · rfl

end

/-- The tokens of every tree are a program, with the statements of the tree. -/
theorem readProgram_tokens (p : Statements) :
    readProgram (p.tokens.map Token.kind) = .ok p.length := by
  have h := run_statements p 0 0 endsExpression_nil
  rw [List.append_nil, if_pos rfl, ProgramState.run_nil, Nat.zero_add] at h
  exact h

end Grammar

end BoolWhile
