import BoolWhile.Recognition.Program
import Mathlib.Tactic.Common

/-!
# What one statement does to a run

The loop over statements is opened here once, for each token that may stand between two
statements: a loop goes on in its block, an expression goes on behind it, and the end of a block
goes on in the block around it. The end of the tokens is the end of a program, unless a block is
open. Nothing else opens `ProgramState.run`.
-/

namespace BoolWhile

variable {statements blocks : Nat} {k : Kind} {ks : List Kind}

/-! ### Outcomes in sequence -/

section

variable {ε α β : Type}

@[simp] lemma ok_bind (a : α) (f : α → Except ε β) : (.ok a : Except ε α) >>= f = f a := rfl

@[simp] lemma error_bind (e : ε) (f : α → Except ε β) :
    (.error e : Except ε α) >>= f = .error e := rfl

lemma exists_of_bind_eq_ok {x : Except ε α} {f : α → Except ε β} {b : β}
    (h : x >>= f = .ok b) : ∃ a, x = .ok a ∧ f a = .ok b := by
  cases x with
  | error e => cases h
  | ok a => exact ⟨a, rfl, h⟩

end

/-! ### Expressions -/

lemma Kind.isBinary_of_isRelational (h : k.isRelational = true) : k.isBinary = true := by
  cases k <;> simp_all [isRelational, isBinary]

/-- Tokens that do not continue an expression in front of them. -/
def EndsExpression (ks : List Kind) : Prop := ∀ k ∈ ks.head?, k.isBinary = false

lemma endsExpression_nil : EndsExpression [] := by simp [EndsExpression]

@[simp] lemma endsExpression_cons : EndsExpression (k :: ks) ↔ k.isBinary = false := by
  simp [EndsExpression]

lemma endsExpression_rightBraces (n : Nat) : EndsExpression (List.replicate n .rightBrace) := by
  cases n with
  | zero => exact endsExpression_nil
  | succ n => exact endsExpression_cons.2 rfl

namespace ExpressionState

variable {groups : Nat}

lemma read_not : read ⟨.operand, groups⟩ (.logicalNot :: ks) = read ⟨.operand, groups⟩ ks := by
  simp [read, move]

lemma read_leftParen :
    read ⟨.operand, groups⟩ (.leftParen :: ks) = read ⟨.operand, groups + 1⟩ ks := by
  simp [read, move]

lemma read_literal (hk : k.isLiteral = true) :
    read ⟨.operand, groups⟩ (k :: ks) = read ⟨.operator, groups⟩ ks := by
  cases k <;> simp_all [read, move, Kind.isLiteral]

/-- Where an operand is looked for, nothing else begins one. -/
lemma read_operand_stuck (hnot : k ≠ .logicalNot) (hparen : k ≠ .leftParen)
    (hliteral : k.isLiteral = false) :
    read ⟨.operand, groups⟩ (k :: ks) = .error ⟨.expression, k :: ks⟩ := by
  simp [read, move, hnot, hparen, hliteral]

lemma read_operand_nil : read ⟨.operand, groups⟩ [] = .error ⟨.expression, []⟩ := rfl

lemma read_binary (hk : k.isBinary = true) :
    read ⟨.operator, groups⟩ (k :: ks) = read ⟨.operand, groups⟩ ks := by
  cases groups <;> simp [read, move, hk]

lemma read_rightParen :
    read ⟨.operator, groups + 1⟩ (.rightParen :: ks) = read ⟨.operator, groups⟩ ks := by
  simp [read, move, Kind.isBinary, Kind.isRelational]

lemma read_rightParens (groups n : Nat) (ks : List Kind) :
    read ⟨.operator, groups + n⟩ (List.replicate n .rightParen ++ ks) =
      read ⟨.operator, groups⟩ ks := by
  induction n with
  | zero => rfl
  | succ n ih =>
    rw [List.replicate_succ, List.cons_append, ← Nat.add_assoc, read_rightParen, ih]

/-- Outside all parentheses, an expression ends before every token that does not continue it. -/
lemma read_operator_zero (h : EndsExpression ks) : read ⟨.operator, 0⟩ ks = .ok ks := by
  cases ks with
  | nil => rfl
  | cons k ks => simp [read, move, endsExpression_cons.1 h]

/-- Inside parentheses, such a token has to be the closing one. -/
lemma read_operator_succ (h : EndsExpression ks) :
    read ⟨.operator, groups + 1⟩ ks =
      Construct.closeGroup.read ks >>= read ⟨.operator, groups⟩ := by
  cases ks with
  | nil => rfl
  | cons k ks =>
    by_cases hk : k = .rightParen
    · subst hk
      exact read_rightParen
    · have hclose : Construct.closeGroup.kind? ≠ some k := fun h => hk (Option.some.inj h).symm
      simp [read, move, endsExpression_cons.1 h, hk, Construct.read, hclose]

lemma move_start_ne_finish : start.move k ≠ .finish := by
  simp only [start, move]
  split_ifs <;> simp

lemma eq_of_move_finish {s : ExpressionState} (h : s.move k = .finish) : s = ⟨.operator, 0⟩ := by
  obtain ⟨awaiting, groups⟩ := s
  cases awaiting <;> cases groups <;> simp only [move] at h <;> split_ifs at h
  rfl

/-- One token that is taken into an expression. -/
inductive Takes : ExpressionState → Kind → ExpressionState → Prop
  | negation (groups : Nat) : Takes ⟨.operand, groups⟩ .logicalNot ⟨.operand, groups⟩
  | openGroup (groups : Nat) : Takes ⟨.operand, groups⟩ .leftParen ⟨.operand, groups + 1⟩
  | literal (groups : Nat) {k : Kind} (hk : k.isLiteral = true) :
    Takes ⟨.operand, groups⟩ k ⟨.operator, groups⟩
  | binary (groups : Nat) {k : Kind} (hk : k.isBinary = true) :
    Takes ⟨.operator, groups⟩ k ⟨.operand, groups⟩
  | closeGroup (groups : Nat) : Takes ⟨.operator, groups + 1⟩ .rightParen ⟨.operator, groups⟩

/-- No other token is taken. -/
theorem Takes.of_move {s t : ExpressionState} (h : s.move k = .take t) : Takes s k t := by
  obtain ⟨awaiting, groups⟩ := s
  cases awaiting with
  | operand =>
    simp only [move] at h
    split_ifs at h with hnot hparen hliteral
    · obtain rfl := ExpressionMove.take.inj h
      obtain rfl := hnot
      exact .negation groups
    · obtain rfl := ExpressionMove.take.inj h
      obtain rfl := hparen
      exact .openGroup groups
    · obtain rfl := ExpressionMove.take.inj h
      exact .literal groups hliteral
  | operator =>
    cases groups with
    | zero =>
      simp only [move] at h
      split_ifs at h with hbinary
      obtain rfl := ExpressionMove.take.inj h
      exact .binary 0 hbinary
    | succ groups =>
      simp only [move] at h
      split_ifs at h with hbinary hparen
      · obtain rfl := ExpressionMove.take.inj h
        exact .binary (groups + 1) hbinary
      · obtain rfl := ExpressionMove.take.inj h
        obtain rfl := hparen
        exact .closeGroup groups

end ExpressionState

/-- An expression does not begin with a word of the language that is no literal, an operator
between operands, or a closing token. -/
lemma begins_of_readExpression {rest : List Kind} (h : readExpression (k :: ks) = .ok rest) :
    k = .logicalNot ∨ k = .leftParen ∨ k.isLiteral = true := by
  by_contra hk
  push Not at hk
  obtain ⟨hnot, hparen, hliteral⟩ := hk
  rw [readExpression, ExpressionState.start,
    ExpressionState.read_operand_stuck hnot hparen (by simpa using hliteral)] at h
  simp at h

lemma Kind.isBinary_of_begins
    (h : k = .logicalNot ∨ k = .leftParen ∨ k.isLiteral = true) : k.isBinary = false := by
  rcases h with rfl | rfl | h
  · rfl
  · rfl
  · cases k <;> simp_all [isLiteral, isBinary, isRelational]

/-! ### Statements -/

namespace ProgramState

lemma run_of_next {s s' : ProgramState} (h : s.step = .next s') : s.run = s'.run := by
  rw [run]
  split <;> simp_all

lemma run_of_accepted {s : ProgramState} (h : s.step = .accepted statements) :
    s.run = .ok statements := by
  rw [run]
  split <;> simp_all

lemma run_of_stuck {s : ProgramState} {place : Stuck} (h : s.step = .stuck place) :
    s.run = .error place := by
  rw [run]
  split <;> simp_all

@[simp] lemma run_nil : (⟨statements, 0, []⟩ : ProgramState).run = .ok statements :=
  run_of_accepted rfl

@[simp] lemma run_nil_open :
    (⟨statements, blocks + 1, []⟩ : ProgramState).run = .error ⟨.closeBlock, []⟩ :=
  run_of_stuck rfl

@[simp] lemma run_closeBlock :
    (⟨statements, blocks + 1, .rightBrace :: ks⟩ : ProgramState).run =
      (⟨statements, blocks, ks⟩ : ProgramState).run :=
  run_of_next rfl

lemma run_rightBraces (statements blocks n : Nat) (ks : List Kind) :
    (⟨statements, blocks + n, List.replicate n .rightBrace ++ ks⟩ : ProgramState).run =
      (⟨statements, blocks, ks⟩ : ProgramState).run := by
  induction n with
  | zero => rfl
  | succ n ih =>
    rw [List.replicate_succ, List.cons_append, ← Nat.add_assoc, run_closeBlock, ih]

/-- What is read behind a part of a statement. -/
lemma run_of_behind {s : ProgramState} {statements blocks : Nat}
    {outcome : Except Stuck (List Kind)} (h : s.step = .behind statements blocks outcome) :
    s.run = outcome >>= fun rest => (⟨statements, blocks, rest⟩ : ProgramState).run := by
  cases outcome with
  | ok rest => exact run_of_next h
  | error place => exact run_of_stuck h

lemma step_eq_beginStatement (hk : blocks = 0 ∨ k ≠ .rightBrace) :
    (⟨statements, blocks, k :: ks⟩ : ProgramState).step =
      (⟨statements, blocks, k :: ks⟩ : ProgramState).beginStatement := by
  unfold step
  split
  · rename_i hrest
    simp at hrest
  · rename_i hrest
    simp at hrest
  · rename_i hblocks hrest
    simp_all
  · rfl

/-- A `while` loop is gone into. -/
lemma run_while :
    (⟨statements, blocks, .whileWord :: ks⟩ : ProgramState).run =
      readHeader (.whileWord :: ks) >>= fun rest =>
        (⟨if blocks = 0 then statements + 1 else statements, blocks + 1, rest⟩ :
          ProgramState).run := by
  apply run_of_behind
  rw [step_eq_beginStatement (by simp)]
  rfl

/-- Every other token begins an expression, or a block would have to be closed first. -/
lemma run_expression (hk : k ≠ .whileWord) (hclose : blocks = 0 ∨ k ≠ .rightBrace) :
    (⟨statements, blocks, k :: ks⟩ : ProgramState).run =
      readExpression (k :: ks) >>= fun rest =>
        (⟨if blocks = 0 then statements + 1 else statements, blocks, rest⟩ :
          ProgramState).run := by
  apply run_of_behind
  rw [step_eq_beginStatement hclose, beginStatement, if_neg (by simpa using hk)]
  rfl

/-- Between two statements, no program goes on with an operator between operands. -/
lemma endsExpression_of_run {n : Nat}
    (h : (⟨statements, blocks, ks⟩ : ProgramState).run = .ok n) : EndsExpression ks := by
  cases ks with
  | nil => exact endsExpression_nil
  | cons k ks =>
    refine endsExpression_cons.2 ?_
    by_cases hwhile : k = .whileWord
    · rw [hwhile]
      rfl
    by_cases hbrace : k = .rightBrace
    · rw [hbrace]
      rfl
    rw [run_expression hwhile (.inr hbrace)] at h
    obtain ⟨rest, hread, -⟩ := exists_of_bind_eq_ok h
    exact Kind.isBinary_of_begins (begins_of_readExpression hread)

end ProgramState

end BoolWhile
