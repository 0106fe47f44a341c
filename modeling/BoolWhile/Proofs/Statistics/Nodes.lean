import BoolWhile.Proofs.Recognition.SyntaxTree
import BoolWhile.Proofs.Statistics.Sums
import BoolWhile.Proofs.Tokens.RoundTrip
import Mathlib.Algebra.GroupWithZero.Nat

/-!
# The statistics of programs count nodes

Statistics are collected from tokens, whether they are a program or not. If they are one, they are
the statistics of each of its trees: each loop has one keyword and one brace of either kind, each
comparison has one operator, and the names and numbers of the text are the leaves.
-/

namespace BoolWhile

namespace Grammar

/-! ### Nodes of trees -/

mutual

/-- The leaves of an expression, from left to right. -/
def Primary.leaves : Primary → List Token
  | .literal t => [t.1]
  | .group _ e _ => e.leaves

@[inherit_doc Primary.leaves]
def NotExpression.leaves : NotExpression → List Token
  | .primary e => e.leaves
  | .not _ e => e.leaves

@[inherit_doc Primary.leaves]
def RelExpression.leaves : RelExpression → List Token
  | .one e => e.leaves
  | .more left _ right => left.leaves ++ right.leaves

@[inherit_doc Primary.leaves]
def AndExpression.leaves : AndExpression → List Token
  | .one e => e.leaves
  | .more left _ right => left.leaves ++ right.leaves

@[inherit_doc Primary.leaves]
def OrExpression.leaves : OrExpression → List Token
  | .one e => e.leaves
  | .more left _ right => left.leaves ++ right.leaves

end

mutual

/-- The number of comparisons in an expression, on all levels. -/
def Primary.comparisons : Primary → Nat
  | .literal _ => 0
  | .group _ e _ => e.comparisons

@[inherit_doc Primary.comparisons]
def NotExpression.comparisons : NotExpression → Nat
  | .primary e => e.comparisons
  | .not _ e => e.comparisons

@[inherit_doc Primary.comparisons]
def RelExpression.comparisons : RelExpression → Nat
  | .one e => e.comparisons
  | .more left _ right => left.comparisons + 1 + right.comparisons

@[inherit_doc Primary.comparisons]
def AndExpression.comparisons : AndExpression → Nat
  | .one e => e.comparisons
  | .more left _ right => left.comparisons + right.comparisons

@[inherit_doc Primary.comparisons]
def OrExpression.comparisons : OrExpression → Nat
  | .one e => e.comparisons
  | .more left _ right => left.comparisons + right.comparisons

end

mutual

/-- The expressions and conditions among statements, also inside of loops. -/
def Statement.expressions : Statement → List Expression
  | .expression e => [e]
  | .loop header body _ => header.condition :: body.expressions

@[inherit_doc Statement.expressions]
def Statements.expressions : Statements → List Expression
  | .nil => []
  | .cons first rest => first.expressions ++ rest.expressions

end

mutual

/-- The number of loops among statements, also inside of loops. -/
def Statement.loops : Statement → Nat
  | .expression _ => 0
  | .loop _ body _ => body.loops + 1

@[inherit_doc Statement.loops]
def Statements.loops : Statements → Nat
  | .nil => 0
  | .cons first rest => first.loops + rest.loops

end

/-- The leaves of all expressions among statements, from left to right. -/
def Statements.leaves (p : Statements) : List Token := p.expressions.flatMap OrExpression.leaves

/-- The number of comparisons among statements. -/
def Statements.comparisons (p : Statements) : Nat :=
  (p.expressions.map OrExpression.comparisons).sum

/-! ### Tokens of nodes -/

/-- The literals of some tokens are some leaves, and the tokens are those of a number of
comparisons and of loops. -/
structure Tally (tokens leaves : List Token) (comparisons loops : Nat) : Prop where
  leaves : tokens.filter (·.kind.isLiteral) = leaves
  comparisons : tokens.countP (·.kind.isRelational) = comparisons
  keywords : tokens.countP (·.kind = .whileWord) = loops
  opened : tokens.countP (·.kind = .leftBrace) = loops
  closed : tokens.countP (·.kind = .rightBrace) = loops

section

variable {ts us ls ms : List Token} {m n i j : Nat} {t : Token}

lemma tally_nil : Tally [] [] 0 0 := ⟨rfl, rfl, rfl, rfl, rfl⟩

lemma Tally.append (h : Tally ts ls m i) (h' : Tally us ms n j) :
    Tally (ts ++ us) (ls ++ ms) (m + n) (i + j) where
  leaves := by rw [List.filter_append, h.leaves, h'.leaves]
  comparisons := by rw [List.countP_append, h.comparisons, h'.comparisons]
  keywords := by rw [List.countP_append, h.keywords, h'.keywords]
  opened := by rw [List.countP_append, h.opened, h'.opened]
  closed := by rw [List.countP_append, h.closed, h'.closed]

/-- Two operands with an operator between them. -/
lemma Tally.join (h : Tally ts ls m 0) (hop : Tally [t] [] i 0) (h' : Tally us ms n 0) :
    Tally (ts ++ t :: us) (ls ++ ms) (m + i + n) 0 := by
  simpa using (h.append hop).append h'

lemma tally_literal (h : t.kind.isLiteral = true) : Tally [t] [t] 0 0 := by
  have hkind : t.kind.isRelational = false ∧ t.kind ≠ .whileWord ∧ t.kind ≠ .leftBrace ∧
      t.kind ≠ .rightBrace := by
    cases hk : t.kind <;> simp_all [Kind.isLiteral, Kind.isRelational]
  constructor <;> simp [h, hkind]

lemma tally_comparison (h : t.kind.isRelational = true) : Tally [t] [] 1 0 := by
  have hkind : t.kind.isLiteral = false ∧ t.kind ≠ .whileWord ∧ t.kind ≠ .leftBrace ∧
      t.kind ≠ .rightBrace := by
    cases hk : t.kind <;> simp_all [Kind.isLiteral, Kind.isRelational]
  constructor <;> simp [h, hkind]

/-- The other tokens of expressions. -/
lemma tally_mark {k : Kind} (t : TokenOf k)
    (h : k ∈ [.logicalNot, .leftParen, .rightParen, .logicalAnd, .logicalOr]) :
    Tally [t.1] [] 0 0 := by
  obtain ⟨t, rfl⟩ := t
  have hkind : t.kind.isLiteral = false ∧ t.kind.isRelational = false ∧ t.kind ≠ .whileWord ∧
      t.kind ≠ .leftBrace ∧ t.kind ≠ .rightBrace := by
    cases hk : t.kind <;> simp_all [Kind.isLiteral, Kind.isRelational]
  constructor <;> simp [hkind]

/-- A loop adds one keyword and one brace of either kind to its condition and its body. -/
lemma Tally.loop {header : Header} {body : List Token} (closeBlock : TokenOf .rightBrace)
    (h : Tally header.condition.tokens ls m 0) (h' : Tally body ms n j) :
    Tally (header.tokens ++ body ++ [closeBlock.1]) (ls ++ ms) (m + n) (j + 1) := by
  have hkinds := And.intro header.keyword.2 (And.intro header.openCondition.2
    (And.intro header.closeCondition.2 (And.intro header.openBlock.2 closeBlock.2)))
  have hbody := h.append h'
  rw [Nat.zero_add] at hbody
  constructor
  · rw [← hbody.leaves]
    simp [Header.tokens, hkinds, Kind.isLiteral]
  · rw [← hbody.comparisons]
    simp [Header.tokens, hkinds, Kind.isRelational]
  · rw [← hbody.keywords]
    simp [Header.tokens, hkinds]
  · rw [← hbody.opened]
    simp [Header.tokens, hkinds, Nat.add_assoc]
  · rw [← hbody.closed]
    simp [Header.tokens, hkinds, Nat.add_assoc]

end

mutual

lemma tally_primary (e : Primary) : Tally e.tokens e.leaves e.comparisons 0 := by
  match e with
  | .literal t => exact tally_literal t.2
  | .group opening e closing =>
    have hinside := (tally_mark opening (by simp)).append (tally_orExpression e)
    have hgroup := hinside.append (tally_mark closing (by simp))
    simpa [Primary.tokens, Primary.leaves, Primary.comparisons] using hgroup

lemma tally_notExpression (e : NotExpression) : Tally e.tokens e.leaves e.comparisons 0 := by
  match e with
  | .primary e => exact tally_primary e
  | .not op e =>
    have hnot := (tally_mark op (by simp)).append (tally_notExpression e)
    simpa [NotExpression.tokens, NotExpression.leaves, NotExpression.comparisons] using hnot

lemma tally_relExpression (e : RelExpression) : Tally e.tokens e.leaves e.comparisons 0 := by
  match e with
  | .one e => exact tally_notExpression e
  | .more left op right =>
    exact (tally_relExpression left).join (tally_comparison op.2) (tally_notExpression right)

lemma tally_andExpression (e : AndExpression) : Tally e.tokens e.leaves e.comparisons 0 := by
  match e with
  | .one e => exact tally_relExpression e
  | .more left op right =>
    exact (tally_andExpression left).join (tally_mark op (by simp)) (tally_relExpression right)

lemma tally_orExpression (e : OrExpression) : Tally e.tokens e.leaves e.comparisons 0 := by
  match e with
  | .one e => exact tally_andExpression e
  | .more left op right =>
    exact (tally_orExpression left).join (tally_mark op (by simp)) (tally_andExpression right)

end

mutual

lemma tally_statement (s : Statement) :
    Tally s.tokens (s.expressions.flatMap OrExpression.leaves)
      (s.expressions.map OrExpression.comparisons).sum s.loops := by
  match s with
  | .expression e =>
    simpa [Statement.expressions, Statement.tokens, Statement.loops] using tally_orExpression e
  | .loop header body closeBlock =>
    have hloop := (tally_orExpression header.condition).loop closeBlock (tally_statements body)
    simpa [Statement.expressions, Statement.tokens, Statement.loops, Statements.leaves,
      Statements.comparisons] using hloop

/-- The tokens of statements are those of their leaves, comparisons and loops. -/
theorem tally_statements (p : Statements) : Tally p.tokens p.leaves p.comparisons p.loops := by
  match p with
  | .nil => exact tally_nil
  | .cons first rest =>
    have hboth := (tally_statement first).append (tally_statements rest)
    simpa [Statements.expressions, Statements.tokens, Statements.loops, Statements.leaves,
      Statements.comparisons] using hboth

end

end Grammar

/-! ### Names and numbers of a text

Statistics go by the letters and digits of any script. Those of a name or number that is read from
a text are ASCII.
-/

namespace Text

variable {c : Char}

lemma isAnyLetter_of_isLetter (h : isLetter c = true) : isAnyLetter c = true := by
  rw [isAnyLetter, CodeRanges.contains_iff letterRanges_increasing]
  have hcase : (c.isUpper || c.isLower) = true := h
  rcases Bool.or_eq_true_iff.1 hcase with hupper | hlower
  · have hrange := of_decide_eq_true hupper
    exact ⟨(0x41, 0x5A), .head _, hrange.1, hrange.2⟩
  · have hrange := Bool.and_eq_true_iff.1 hlower
    exact ⟨(0x61, 0x7A), .tail _ (.head _), of_decide_eq_true hrange.1,
      of_decide_eq_true hrange.2⟩

lemma hasDigitValue_of_isDigit (h : isDigit c = true) : hasDigitValue c = true := by
  rw [hasDigitValue, CodeRanges.contains_iff digitValueRanges_increasing]
  exact ⟨(0x30, 0x39), .head _, Char.isDigit_iff_toNat.1 h⟩

end Text

section

variable {rule : KeywordRule} {filename source : String} {p : Position} {cs : List Char} {t : Token}

lemma Token.isSingle_congr {kind : Kind} {inClass inClass' : Char → Bool}
    (h : ∀ c, t.kind = kind → t.lexeme.toList = [c] → inClass c = inClass' c) :
    t.isSingle kind inClass = t.isSingle kind inClass' := by
  rw [Bool.eq_iff_iff, isSingle_iff, isSingle_iff]
  refine and_congr_right fun hkind => exists_congr fun c => and_congr_right fun htext => ?_
  rw [h c hkind htext]

lemma isSingle_identifier (h : t ∈ tokensFrom rule filename p cs) :
    t.isSingle .identifier Text.isAnyLetter = t.isSingle .identifier Text.isLetter := by
  refine Token.isSingle_congr fun c hkind htext => ?_
  have hspells := spells_of_mem_tokensFrom h
  rw [hkind, htext] at hspells
  have hletter : Text.isLetter c = true := hspells.of_identifier.1.1
  rw [hletter, Text.isAnyLetter_of_isLetter hletter]

lemma isSingle_number (h : t ∈ tokensFrom rule filename p cs) :
    t.isSingle .number Text.hasDigitValue = t.isSingle .number Text.isDigit := by
  refine Token.isSingle_congr fun c hkind htext => ?_
  have hspells := spells_of_mem_tokensFrom h
  rw [hkind, htext] at hspells
  have hdigit : Text.isDigit c = true := hspells.of_number.1
  rw [hdigit, Text.hasDigitValue_of_isDigit hdigit]

end

/-! ### Programs -/

/-- Statistics are those of the nodes of a program. -/
structure Statistics.CountsNodes (s : Statistics) (p : Grammar.Statements) : Prop where
  loops : s.loops = p.loops
  comparisons : s.comparisons = p.comparisons
  names : ∀ x, x ∈ s.names ↔
    ∃ t ∈ p.leaves, t.isSingle .identifier Text.isLetter = true ∧ t.lexeme = x
  digits : s.digits = p.leaves.countP (Token.isSingle .number Text.isDigit)

section

variable {rule : KeywordRule} {filename source : String} {p : Grammar.Statements}

lemma isLiteral_of_isSingle {kind : Kind} {inClass : Char → Bool} {t : Token}
    (hkind : kind.isLiteral = true) (h : t.isSingle kind inClass = true) :
    t.kind.isLiteral = true := by
  rwa [(Token.isSingle_iff.1 h).1]

lemma countsNodes_of_tokens (h : p.tokens = readTokens rule filename source) :
    (Statistics.ofTokens (readTokens rule filename source)).CountsNodes p := by
  have htally := Grammar.tally_statements p
  rw [h] at htally
  constructor
  · rw [Statistics.loops_ofTokens, htally.keywords]
  · rw [Statistics.comparisons_ofTokens, htally.comparisons]
  · intro x
    rw [Statistics.mem_names_ofTokens, ← htally.leaves]
    refine exists_congr fun t => ?_
    rw [List.mem_filter, and_assoc]
    refine and_congr_right fun ht => ?_
    rw [isSingle_identifier ht]
    exact ⟨fun hx => ⟨isLiteral_of_isSingle rfl hx.1, hx⟩, And.right⟩
  · rw [Statistics.digits_ofTokens, ← htally.leaves, List.countP_filter]
    refine congrArg Nat.cast (List.countP_congr fun t ht => ?_)
    rw [isSingle_number ht, Bool.and_eq_true]
    exact ⟨fun hdigit => ⟨hdigit, isLiteral_of_isSingle rfl hdigit⟩, And.left⟩

/-- If a text is a program, its statistics are those of the nodes of each of its trees, and it has
as many braces of either kind as loops. -/
theorem statistics_countsNodes {n : Nat} (h : countStatementsOfText rule filename source = .ok n) :
    (∃ p : Grammar.Statements, p.tokens = readTokens rule filename source ∧ p.length = n) ∧
      ∀ p : Grammar.Statements, p.tokens = readTokens rule filename source →
        (Statistics.ofTokens (readTokens rule filename source)).CountsNodes p ∧
          (readTokens rule filename source).countP (·.kind = .leftBrace) = p.loops ∧
          (readTokens rule filename source).countP (·.kind = .rightBrace) = p.loops := by
  refine ⟨exists_tokens_eq h, fun p hp => ⟨countsNodes_of_tokens hp, ?_⟩⟩
  rw [← hp]
  exact ⟨(Grammar.tally_statements p).opened, (Grammar.tally_statements p).closed⟩

/-- A loop in a loop, with a comparison in each condition. -/
theorem statistics_countsNodes_nested :
    let source := "while(x<=5)\x7bwhile(y!=zz)\x7bx 12\x7d\x7d"
    countStatementsOfText .anywhere unnamed source = .ok 1 ∧
      ∃ p : Grammar.Statements, p.loops = 2 ∧ p.comparisons = 2 ∧
        (Statistics.ofTokens (readTokens .anywhere unnamed source)).CountsNodes p := by
  intro source
  have h : countStatementsOfText .anywhere unnamed source = .ok 1 := by decide +kernel
  have hloops : (Statistics.ofTokens (readTokens .anywhere unnamed source)).loops = 2 := by
    decide +kernel
  have hcomparisons :
      (Statistics.ofTokens (readTokens .anywhere unnamed source)).comparisons = 2 := by
    decide +kernel
  obtain ⟨⟨p, hp, -⟩, hcounts⟩ := statistics_countsNodes h
  have hnodes := (hcounts p hp).1
  have hp_loops := hnodes.loops
  have hp_comparisons := hnodes.comparisons
  exact ⟨h, p, by omega, by omega, hnodes⟩

end

end BoolWhile
