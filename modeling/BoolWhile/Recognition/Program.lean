import BoolWhile.Recognition.Expression

/-!
# Recognizing a program

A program is a sequence of statements: expressions, and `while` loops with a sequence of
statements in a block. The statements inside and outside blocks are read by one loop that counts
the open blocks. Nothing stands between statements, so one ends where the next token cannot
continue it.
-/

namespace BoolWhile

/-- Reads the part of a `while` loop before its statements. -/
def readHeader (ks : List Kind) : Except Stuck (List Kind) := do
  let ks ← Construct.whileKeyword.read ks
  let ks ← Construct.openCondition.read ks
  let ks ← readExpression ks
  let ks ← Construct.closeCondition.read ks
  Construct.openBlock.read ks

theorem length_lt_of_readHeader {ks rest : List Kind} (h : readHeader ks = .ok rest) :
    rest.length < ks.length := by
  simp only [readHeader, bind, Except.bind] at h
  split at h
  · simp at h
  rename_i h₁
  split at h
  · simp at h
  rename_i h₂
  split at h
  · simp at h
  rename_i h₃
  split at h
  · simp at h
  rename_i h₄
  have := Construct.length_lt_of_read h₁
  have := Construct.length_lt_of_read h₂
  have := length_lt_of_readExpression h₃
  have := Construct.length_lt_of_read h₄
  have := Construct.length_lt_of_read h
  omega

/-- How far a program is read: the statements begun outside all blocks, the open blocks, and the
kinds of the tokens still to be read. -/
structure ProgramState where
  statements : Nat
  blocks : Nat
  rest : List Kind
  deriving DecidableEq, Repr

/-- The outcome of reading on to the next place between statements. -/
inductive ProgramStep
  | next (s : ProgramState)
  | accepted (statements : Nat)
  | stuck (place : Stuck)
  deriving DecidableEq, Repr

/-- Goes on behind a part of a program, if it could be read. -/
def ProgramStep.behind (statements blocks : Nat) : Except Stuck (List Kind) → ProgramStep
  | .ok rest => next ⟨statements, blocks, rest⟩
  | .error place => stuck place

theorem ProgramStep.length_lt_of_behind {statements blocks n : Nat} {s : ProgramState}
    {outcome : Except Stuck (List Kind)} (h : behind statements blocks outcome = next s)
    (hn : ∀ rest, outcome = .ok rest → rest.length < n) : s.rest.length < n := by
  cases outcome with
  | error => simp [behind] at h
  | ok rest =>
    obtain rfl := next.inj h
    exact hn rest rfl

namespace ProgramState

/-- The state before a program. -/
def start (ks : List Kind) : ProgramState := ⟨0, 0, ks⟩

/-- The number of statements once one more is begun, which counts if no block is open. -/
def counted (s : ProgramState) : Nat := if s.blocks = 0 then s.statements + 1 else s.statements

/-- Reads an expression, or a `while` loop up to its first statement. -/
def beginStatement (s : ProgramState) : ProgramStep :=
  if s.rest.head? = some .whileWord then
    .behind s.counted (s.blocks + 1) (readHeader s.rest)
  else .behind s.counted s.blocks (readExpression s.rest)

/-- Reads on to the next place between statements: over the end of a block, over an expression,
or into a block. -/
def step (s : ProgramState) : ProgramStep :=
  match s.blocks, s.rest with
  | 0, [] => .accepted s.statements
  | _ + 1, [] => .stuck ⟨.closeBlock, []⟩
  | blocks + 1, .rightBrace :: ks => .next ⟨s.statements, blocks, ks⟩
  | _, _ => s.beginStatement

theorem length_lt_of_beginStatement {s s' : ProgramState} (h : s.beginStatement = .next s') :
    s'.rest.length < s.rest.length := by
  unfold beginStatement at h
  split at h
  · exact ProgramStep.length_lt_of_behind h fun _ => length_lt_of_readHeader
  · exact ProgramStep.length_lt_of_behind h fun _ => length_lt_of_readExpression

/-- Every step that goes on leaves fewer tokens. -/
theorem length_lt_of_step {s s' : ProgramState} (h : s.step = .next s') :
    s'.rest.length < s.rest.length := by
  unfold step at h
  split at h
  · simp at h
  · simp at h
  · rename_i hrest
    obtain rfl := ProgramStep.next.inj h
    simp [hrest]
  · exact length_lt_of_beginStatement h

/-- Reads a program to its end: the number of statements outside all blocks, or the place where
the program is rejected. -/
def run (s : ProgramState) : Except Stuck Nat :=
  match _h : s.step with
  | .next s' => run s'
  | .accepted statements => .ok statements
  | .stuck place => .error place
termination_by s.rest.length
decreasing_by exact length_lt_of_step _h

end ProgramState

/-- Reads a whole program: the number of its statements outside all blocks, or the place where it
is rejected. -/
def readProgram (ks : List Kind) : Except Stuck Nat := (ProgramState.start ks).run

end BoolWhile
