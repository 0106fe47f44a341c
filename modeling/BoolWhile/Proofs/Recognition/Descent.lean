import BoolWhile.Recognition.Cursor

/-!
# Recursive descent

The recognizer that the grammar suggests: one function for each rule, each of which calls the
functions of the rules it mentions. It needs a frame for every open parenthesis, every `!` and
every open block, where the loops of recognition have two counters. A repetition in a rule is the
function itself, called again behind the operator.

Each function gets the tokens that are not read yet and answers with those that are left, which
are fewer.
-/

namespace BoolWhile

namespace Descent

/-- What is left of some tokens once at least one of them is read. -/
structure Rest (ts : List Token) where
  tokens : List Token
  suffix : tokens <:+ ts
  shorter : tokens.length < ts.length

namespace Rest

variable {ts : List Token}

def tail (t : Token) (ts : List Token) : Rest (t :: ts) :=
  ⟨ts, List.suffix_cons t ts, Nat.lt_succ_self _⟩

def trans (r : Rest ts) (s : Rest r.tokens) : Rest ts :=
  ⟨s.tokens, s.suffix.trans r.suffix, Nat.lt_trans s.shorter r.shorter⟩

end Rest

/-- Reads on behind what is read first. -/
def andThen {ts : List Token} (first : Except SyntaxError (Rest ts))
    (next : (r : Rest ts) → Except SyntaxError (Rest r.tokens)) :
    Except SyntaxError (Rest ts) := do
  let r ← first
  return r.trans (← next r)

/-! ### Single tokens -/

section

variable (all : List Token)

/-- The error that something is missing in front of the tokens that are left. -/
def missing (expected : String) (kind? : Option Kind) : List Token → SyntaxError
  | [] => .unexpectedEnd expected (endOfTokens all) kind?
  | t :: _ => .unexpectedToken expected t kind?

/-- Reads a token of a kind. -/
def expect (kind : Kind) (expected : String) : (ts : List Token) → Except SyntaxError (Rest ts)
  | [] => .error (missing all expected kind [])
  | t :: ts =>
    if t.kind = kind then .ok (.tail t ts) else .error (missing all expected kind (t :: ts))

/-- What is left behind an operator, if one of a class is next. -/
def operator? (isOperator : Kind → Bool) : (ts : List Token) → Option (Rest ts)
  | [] => none
  | t :: ts => if isOperator t.kind then some (.tail t ts) else none

/-! ### Expressions -/

mutual

/-- `Primary -> 'true' | 'false' | IDENTIFIER | NUMBER | '(' Expression ')'` -/
def primary (ts : List Token) : Except SyntaxError (Rest ts) :=
  match ts with
  | [] => .error (missing all "expression" none [])
  | t :: ts =>
    if t.kind.isLiteral then .ok (.tail t ts)
    else if t.kind = .leftParen then
      andThen (.ok (.tail t ts)) fun opened =>
        andThen (orExpression opened.tokens) fun inner =>
          expect all .rightParen "')' to close parenthesized expression" inner.tokens
    else .error (missing all "expression" none (t :: ts))
termination_by (ts.length, 0)
decreasing_by exact Prod.Lex.left _ _ opened.shorter

/-- `NotExpr -> '!' NotExpr | Primary` -/
def notExpression (ts : List Token) : Except SyntaxError (Rest ts) :=
  match operator? (· = .logicalNot) ts with
  | some behind => andThen (.ok behind) fun behind => notExpression behind.tokens
  | none => primary ts
termination_by (ts.length, 1)
decreasing_by
  · exact Prod.Lex.left _ _ behind.shorter
  · decreasing_tactic

/-- `RelExpr -> NotExpr ( ('=='|'!='|'<'|'<='|'>'|'>=') NotExpr )*` -/
def relExpression (ts : List Token) : Except SyntaxError (Rest ts) := do
  let first ← notExpression ts
  match operator? Kind.isRelational first.tokens with
  | some behind => return first.trans (behind.trans (← relExpression behind.tokens))
  | none => return first
termination_by (ts.length, 2)
decreasing_by
  · decreasing_tactic
  · exact Prod.Lex.left _ _ (first.trans behind).shorter

/-- `AndExpr -> RelExpr ( '&&' RelExpr )*` -/
def andExpression (ts : List Token) : Except SyntaxError (Rest ts) := do
  let first ← relExpression ts
  match operator? (· = .logicalAnd) first.tokens with
  | some behind => return first.trans (behind.trans (← andExpression behind.tokens))
  | none => return first
termination_by (ts.length, 3)
decreasing_by
  · decreasing_tactic
  · exact Prod.Lex.left _ _ (first.trans behind).shorter

/-- `OrExpr -> AndExpr ( '||' AndExpr )*` -/
def orExpression (ts : List Token) : Except SyntaxError (Rest ts) := do
  let first ← andExpression ts
  match operator? (· = .logicalOr) first.tokens with
  | some behind => return first.trans (behind.trans (← orExpression behind.tokens))
  | none => return first
termination_by (ts.length, 4)
decreasing_by
  · decreasing_tactic
  · exact Prod.Lex.left _ _ (first.trans behind).shorter

end

/-- `Expression -> OrExpr` -/
def expression (ts : List Token) : Except SyntaxError (Rest ts) := orExpression all ts

/-! ### Statements -/

mutual

/-- `Statement -> WhileStmt | Expression` -/
def statement (ts : List Token) : Except SyntaxError (Rest ts) :=
  match ts with
  | [] => expression all []
  | t :: ts => if t.kind = .whileWord then whileStatement (t :: ts) else expression all (t :: ts)
termination_by (ts.length, 1)

/-- `WhileStmt -> 'while' '(' Expression ')' Block` -/
def whileStatement (ts : List Token) : Except SyntaxError (Rest ts) :=
  andThen (expect all .whileWord "'while'" ts) fun keyword =>
    andThen (expect all .leftParen "'(' after 'while'" keyword.tokens) fun opened =>
      andThen (expression all opened.tokens) fun condition =>
        andThen (expect all .rightParen "')' after while condition" condition.tokens) fun closed =>
          block closed.tokens
termination_by (ts.length, 0)
decreasing_by
  exact Prod.Lex.left _ _ (keyword.trans (opened.trans (condition.trans closed))).shorter

/-- `Block -> '{' Statement* '}'` -/
def block (ts : List Token) : Except SyntaxError (Rest ts) :=
  andThen (expect all .leftBrace "'\x7b' to open block" ts) fun opened =>
    blockStatements opened.tokens
termination_by (ts.length, 1)
decreasing_by exact Prod.Lex.left _ _ opened.shorter

/-- The statements of a block, while tokens remain and the next one does not close it, and the
token that closes it. -/
def blockStatements (ts : List Token) : Except SyntaxError (Rest ts) :=
  if ts.head?.any (·.kind ≠ .rightBrace) then
    andThen (statement ts) fun first => blockStatements first.tokens
  else expect all .rightBrace "'\x7d' to close block" ts
termination_by (ts.length, 2)
decreasing_by
  · decreasing_tactic
  · exact Prod.Lex.left _ _ first.shorter

end

/-- `Program -> Statement*`, with the number of statements. -/
def statements (ts : List Token) : Except SyntaxError Nat :=
  match ts with
  | [] => return 0
  | t :: ts => do
    let first ← statement all (t :: ts)
    return (← statements first.tokens) + 1
termination_by ts.length
decreasing_by exact first.shorter

end

/-- Recognizes a whole program by recursive descent. -/
def program (tokens : List Token) : Except SyntaxError Nat := statements tokens tokens

end Descent

end BoolWhile
