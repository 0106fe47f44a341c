import BoolWhile.Token.Kind

/-!
# What is looked for

Recognizing a program is always a search for one construct of the grammar. A program is rejected
where the construct that is looked for does not stand.
-/

namespace BoolWhile

/-- A part of a program that may be missing. -/
inductive Construct
  | whileKeyword
  | openCondition
  | closeCondition
  | openBlock
  | closeBlock
  | closeGroup
  | expression
  deriving DecidableEq, Repr

namespace Construct

/-- The construct in the words of error messages. -/
def description : Construct → String
  | whileKeyword => "'while'"
  | openCondition => "'(' after 'while'"
  | closeCondition => "')' after while condition"
  | openBlock => "'\x7b' to open block"
  | closeBlock => "'\x7d' to close block"
  | closeGroup => "')' to close parenthesized expression"
  | expression => "expression"

/-- The only kind of token that a construct consists of; an expression has none. -/
def kind? : Construct → Option Kind
  | whileKeyword => some .whileWord
  | openCondition => some .leftParen
  | closeCondition | closeGroup => some .rightParen
  | openBlock => some .leftBrace
  | closeBlock => some .rightBrace
  | expression => none

end Construct

/-- The place where a program is rejected: what is looked for there, and the kinds of the tokens
that are not yet read. The first of them is the wrong one; there is none at the end. -/
structure Stuck where
  construct : Construct
  unread : List Kind
  deriving DecidableEq, Repr

/-- Reads the token that a construct consists of. -/
def Construct.read (construct : Construct) : List Kind → Except Stuck (List Kind)
  | [] => .error ⟨construct, []⟩
  | k :: ks => if construct.kind? = some k then .ok ks else .error ⟨construct, k :: ks⟩

theorem Construct.length_lt_of_read {construct : Construct} {ks rest : List Kind}
    (h : construct.read ks = .ok rest) : rest.length < ks.length := by
  cases ks with
  | nil => simp [read] at h
  | cons k ks =>
    by_cases hk : construct.kind? = some k
    · simp only [read, if_pos hk, Except.ok.injEq] at h
      simp [h]
    · simp [read, hk] at h

end BoolWhile
