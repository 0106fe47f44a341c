import BoolWhile.Recognition.Construct

/-!
# Recognizing an expression

An expression is a run of operands with an operator between any two of them, whatever the
operators are. Since precedence decides nothing here, and open parentheses are told apart by
nothing but their number, one counter is all that has to be remembered.
-/

namespace BoolWhile

/-- What an expression goes on with. -/
inductive Awaiting
  | operand
  | operator
  deriving DecidableEq, Repr

/-- How far an expression is read: what it goes on with, and how many parentheses are open. -/
structure ExpressionState where
  awaiting : Awaiting
  groups : Nat
  deriving DecidableEq, Repr

/-- What the next token means to an expression: it belongs to it, it stands after its end, or
something else is missing in front of it. -/
inductive ExpressionMove
  | take (s : ExpressionState)
  | finish
  | stuck (construct : Construct)
  deriving DecidableEq, Repr

namespace ExpressionState

/-- The state before an expression. -/
def start : ExpressionState := ⟨.operand, 0⟩

/-- What a token means in a state. -/
def move : ExpressionState → Kind → ExpressionMove
  | ⟨.operand, groups⟩, k =>
    if k = .logicalNot then .take ⟨.operand, groups⟩
    else if k = .leftParen then .take ⟨.operand, groups + 1⟩
    else if k.isLiteral then .take ⟨.operator, groups⟩
    else .stuck .expression
  | ⟨.operator, 0⟩, k => if k.isBinary then .take ⟨.operand, 0⟩ else .finish
  | ⟨.operator, groups + 1⟩, k =>
    if k.isBinary then .take ⟨.operand, groups + 1⟩
    else if k = .rightParen then .take ⟨.operator, groups⟩
    else .stuck .closeGroup

/-- What is missing where the tokens end in a state. -/
def missing? : ExpressionState → Option Construct
  | ⟨.operand, _⟩ => some .expression
  | ⟨.operator, 0⟩ => none
  | ⟨.operator, _ + 1⟩ => some .closeGroup

/-- Reads an expression on from a state, up to the first token after it. -/
def read (s : ExpressionState) : List Kind → Except Stuck (List Kind)
  | [] =>
    match s.missing? with
    | none => .ok []
    | some construct => .error ⟨construct, []⟩
  | k :: ks =>
    match s.move k with
    | .take s => read s ks
    | .finish => .ok (k :: ks)
    | .stuck construct => .error ⟨construct, k :: ks⟩

theorem length_le_of_read {s : ExpressionState} {ks rest : List Kind}
    (h : s.read ks = .ok rest) : rest.length ≤ ks.length := by
  fun_induction read s ks with
  | case1 => simp_all
  | case2 => simp at h
  | case3 s k ks s' _ ih =>
    have := ih h
    simp only [List.length_cons]
    omega
  | case4 => simp_all
  | case5 => simp at h

end ExpressionState

/-- Reads an expression, up to the first token after it. -/
def readExpression (ks : List Kind) : Except Stuck (List Kind) := ExpressionState.start.read ks

theorem length_lt_of_readExpression {ks rest : List Kind} (h : readExpression ks = .ok rest) :
    rest.length < ks.length := by
  cases ks with
  | nil => simp [readExpression, ExpressionState.read, ExpressionState.missing?,
      ExpressionState.start] at h
  | cons k ks =>
    rw [readExpression, ExpressionState.read] at h
    split at h
    · have := ExpressionState.length_le_of_read h
      simp only [List.length_cons]
      omega
    · rename_i hmove
      simp only [ExpressionState.start, ExpressionState.move] at hmove
      repeat' split at hmove
      all_goals simp at hmove
    · simp at h

end BoolWhile
