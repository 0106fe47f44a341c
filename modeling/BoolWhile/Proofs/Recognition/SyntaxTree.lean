import BoolWhile.Proofs.Recognition.Derivation
import BoolWhile.Proofs.Recognition.Simulation

/-!
# Recognized tokens have a syntax tree

Recursive descent leaves a tree behind, and it accepts what the loops accept. So recognition is
exactly derivation from the rules of the grammar.
-/

namespace BoolWhile

namespace Grammar

/-! ### Grouping to the left

A repetition is read from left to right, first operand first, but its tree grows at the end.
-/

/-- An expression with one more operand in front. -/
def RelExpression.prepend (first : NotExpression) (op : TokenIn Kind.isRelational) :
    RelExpression → RelExpression
  | .one e => .more (.one first) op e
  | .more left op' right => .more (left.prepend first op) op' right

@[inherit_doc RelExpression.prepend]
def AndExpression.prepend (first : RelExpression) (op : TokenOf .logicalAnd) :
    AndExpression → AndExpression
  | .one e => .more (.one first) op e
  | .more left op' right => .more (left.prepend first op) op' right

@[inherit_doc RelExpression.prepend]
def OrExpression.prepend (first : AndExpression) (op : TokenOf .logicalOr) :
    OrExpression → OrExpression
  | .one e => .more (.one first) op e
  | .more left op' right => .more (left.prepend first op) op' right

lemma RelExpression.tokens_prepend (first : NotExpression) (op : TokenIn Kind.isRelational)
    (e : RelExpression) : (e.prepend first op).tokens = first.tokens ++ op.1 :: e.tokens := by
  fun_induction prepend first op e with
  | case1 e => rfl
  | case2 left op' right ih => simp [tokens, ih]

lemma AndExpression.tokens_prepend (first : RelExpression) (op : TokenOf .logicalAnd)
    (e : AndExpression) : (e.prepend first op).tokens = first.tokens ++ op.1 :: e.tokens := by
  fun_induction prepend first op e with
  | case1 e => rfl
  | case2 left op' right ih => simp [tokens, ih]

lemma OrExpression.tokens_prepend (first : AndExpression) (op : TokenOf .logicalOr)
    (e : OrExpression) : (e.prepend first op).tokens = first.tokens ++ op.1 :: e.tokens := by
  fun_induction prepend first op e with
  | case1 e => rfl
  | case2 left op' right ih => simp [tokens, ih]

end Grammar

/-! ### What is read has a tree -/

namespace Descent

open Grammar

variable {all ts : List Token}

lemma of_andThen_eq_ok {first : Except SyntaxError (Rest ts)}
    {next : (r : Rest ts) → Except SyntaxError (Rest r.tokens)} {rest : Rest ts}
    (h : andThen first next = .ok rest) :
    ∃ r s, first = .ok r ∧ next r = .ok s ∧ rest.tokens = s.tokens := by
  cases first with
  | error e => simp [andThen] at h
  | ok r =>
    rw [andThen, ok_bind] at h
    cases hnext : next r with
    | error e => simp [hnext] at h
    | ok s =>
      rw [hnext] at h
      obtain rfl := Except.ok.inj h
      exact ⟨r, s, rfl, hnext, rfl⟩

lemma of_expect_eq_ok {kind : Kind} {expected : String} {rest : Rest ts}
    (h : expect all kind expected ts = .ok rest) :
    ∃ t : TokenOf kind, ts = t.1 :: rest.tokens := by
  cases ts with
  | nil => simp [expect] at h
  | cons t ts =>
    rw [expect] at h
    split_ifs at h with ht
    obtain rfl := Except.ok.inj h
    exact ⟨⟨t, ht⟩, rfl⟩

/-- What a repetition reads: one operand, or an operand, an operator and more. -/
lemma of_repetition_eq_ok {operators : Kind → Bool} {operand : Except SyntaxError (Rest ts)}
    {again : (us : List Token) → Except SyntaxError (Rest us)} {rest : Rest ts}
    (h : (do
      let first ← operand
      match operator? operators first.tokens with
      | some behind => return first.trans (behind.trans (← again behind.tokens))
      | none => return first) = .ok rest) :
    operand = .ok rest ∨
      ∃ (first : Rest ts) (op : TokenIn operators) (behind : Rest first.tokens)
        (last : Rest behind.tokens),
        operand = .ok first ∧ first.tokens = op.1 :: behind.tokens ∧
          again behind.tokens = .ok last ∧ rest.tokens = last.tokens := by
  cases operand with
  | error e => simp at h
  | ok first =>
    rw [ok_bind] at h
    cases hop : operator? operators first.tokens with
    | none =>
      rw [hop] at h
      exact .inl h
    | some behind =>
      obtain ⟨t, htokens, ht⟩ := of_operator?_eq_some hop
      simp only [hop] at h
      cases hlast : again behind.tokens with
      | error e => simp [hlast] at h
      | ok last =>
        rw [hlast] at h
        obtain rfl := Except.ok.inj h
        exact .inr ⟨first, ⟨t, ht⟩, behind, last, rfl, htokens, hlast, rfl⟩

mutual

lemma exists_primary {ts : List Token} {rest : Rest ts} (h : primary all ts = .ok rest) :
    ∃ e : Primary, e.tokens ++ rest.tokens = ts := by
  rw [primary.eq_def] at h
  cases ts with
  | nil => simp at h
  | cons t us =>
    dsimp only at h
    split_ifs at h with hliteral hparen
    · obtain rfl := Except.ok.inj h
      exact ⟨.literal ⟨t, hliteral⟩, rfl⟩
    · obtain ⟨opened, behind, hopened, h, hrest⟩ := of_andThen_eq_ok h
      obtain ⟨inner, closed, hinner, hclosed, hbehind⟩ := of_andThen_eq_ok h
      have := opened.shorter
      obtain ⟨e, he⟩ := exists_orExpression hinner
      obtain ⟨closing, hclosing⟩ := of_expect_eq_ok hclosed
      obtain rfl := Except.ok.inj hopened
      have hinside : e.tokens ++ closing.1 :: closed.tokens = us := hclosing ▸ he
      refine ⟨.group ⟨t, hparen⟩ e closing, ?_⟩
      calc (Primary.group ⟨t, hparen⟩ e closing).tokens ++ rest.tokens
          = t :: (e.tokens ++ closing.1 :: closed.tokens) := by
            simp [Primary.tokens, hrest, hbehind]
        _ = t :: us := by rw [hinside]
termination_by (ts.length, 0)

lemma exists_notExpression {ts : List Token} {rest : Rest ts}
    (h : notExpression all ts = .ok rest) :
    ∃ e : NotExpression, e.tokens ++ rest.tokens = ts := by
  rw [notExpression] at h
  cases hop : operator? (· = .logicalNot) ts with
  | none =>
    rw [hop] at h
    obtain ⟨e, he⟩ := exists_primary h
    exact ⟨.primary e, he⟩
  | some behind =>
    rw [hop] at h
    obtain ⟨t, htokens, ht⟩ := of_operator?_eq_some hop
    obtain ⟨first, last, hfirst, hlast, hrest⟩ := of_andThen_eq_ok h
    obtain rfl := Except.ok.inj hfirst
    have := behind.shorter
    obtain ⟨e, he⟩ := exists_notExpression hlast
    refine ⟨.not ⟨t, of_decide_eq_true ht⟩ e, ?_⟩
    rw [NotExpression.tokens, List.cons_append, hrest, he, ← htokens]
termination_by (ts.length, 1)

lemma exists_relExpression {ts : List Token} {rest : Rest ts}
    (h : relExpression all ts = .ok rest) :
    ∃ e : RelExpression, e.tokens ++ rest.tokens = ts := by
  rw [relExpression] at h
  rcases of_repetition_eq_ok h with h | ⟨first, op, behind, last, hfirst, hop, hlast, hrest⟩
  · obtain ⟨e, he⟩ := exists_notExpression h
    exact ⟨.one e, he⟩
  · obtain ⟨e, he⟩ := exists_notExpression hfirst
    have := (first.trans behind).shorter
    obtain ⟨e', he'⟩ := exists_relExpression hlast
    -- The tree of the rest groups to the left, so the first operand goes in at its bottom.
    refine ⟨e'.prepend e op, ?_⟩
    rw [RelExpression.tokens_prepend, List.append_assoc, List.cons_append, hrest, he', ← hop, he]
termination_by (ts.length, 2)

lemma exists_andExpression {ts : List Token} {rest : Rest ts}
    (h : andExpression all ts = .ok rest) :
    ∃ e : AndExpression, e.tokens ++ rest.tokens = ts := by
  rw [andExpression] at h
  rcases of_repetition_eq_ok h with h | ⟨first, op, behind, last, hfirst, hop, hlast, hrest⟩
  · obtain ⟨e, he⟩ := exists_relExpression h
    exact ⟨.one e, he⟩
  · obtain ⟨e, he⟩ := exists_relExpression hfirst
    have := (first.trans behind).shorter
    obtain ⟨e', he'⟩ := exists_andExpression hlast
    refine ⟨e'.prepend e ⟨op.1, of_decide_eq_true op.2⟩, ?_⟩
    rw [AndExpression.tokens_prepend, List.append_assoc, List.cons_append, hrest, he', ← hop, he]
termination_by (ts.length, 3)

lemma exists_orExpression {ts : List Token} {rest : Rest ts}
    (h : orExpression all ts = .ok rest) :
    ∃ e : OrExpression, e.tokens ++ rest.tokens = ts := by
  rw [orExpression] at h
  rcases of_repetition_eq_ok h with h | ⟨first, op, behind, last, hfirst, hop, hlast, hrest⟩
  · obtain ⟨e, he⟩ := exists_andExpression h
    exact ⟨.one e, he⟩
  · obtain ⟨e, he⟩ := exists_andExpression hfirst
    have := (first.trans behind).shorter
    obtain ⟨e', he'⟩ := exists_orExpression hlast
    refine ⟨e'.prepend e ⟨op.1, of_decide_eq_true op.2⟩, ?_⟩
    rw [OrExpression.tokens_prepend, List.append_assoc, List.cons_append, hrest, he', ← hop, he]
termination_by (ts.length, 4)

end

lemma statement_eq_or (all ts : List Token) :
    statement all ts = whileStatement all ts ∨ statement all ts = expression all ts := by
  rw [statement.eq_def]
  cases ts with
  | nil => exact .inr rfl
  | cons t us =>
    dsimp only
    split_ifs
    · exact .inl rfl
    · exact .inr rfl

mutual

lemma exists_statement {ts : List Token} {rest : Rest ts} (h : statement all ts = .ok rest) :
    ∃ s : Statement, s.tokens ++ rest.tokens = ts := by
  rcases statement_eq_or all ts with hloop | hexpression
  · obtain ⟨header, body, closeBlock, hts⟩ := exists_whileStatement (hloop.symm.trans h)
    refine ⟨.loop header body closeBlock, Eq.trans ?_ hts⟩
    simp [Statement.tokens]
  · obtain ⟨e, he⟩ := exists_orExpression (hexpression.symm.trans h)
    exact ⟨.expression e, he⟩
termination_by (ts.length, 1)

lemma exists_whileStatement {ts : List Token} {rest : Rest ts}
    (h : whileStatement all ts = .ok rest) :
    ∃ (header : Header) (body : Statements) (closeBlock : TokenOf .rightBrace),
      header.tokens ++ (body.tokens ++ closeBlock.1 :: rest.tokens) = ts := by
  rw [whileStatement] at h
  obtain ⟨keyword, last₁, hkeyword, h, hrest⟩ := of_andThen_eq_ok h
  obtain ⟨opened, last₂, hopened, h, hlast₁⟩ := of_andThen_eq_ok h
  obtain ⟨condition, last₃, hcondition, h, hlast₂⟩ := of_andThen_eq_ok h
  obtain ⟨closed, last, hclosed, hblock, hlast₃⟩ := of_andThen_eq_ok h
  have := (keyword.trans (opened.trans (condition.trans closed))).shorter
  obtain ⟨keyword', hts⟩ := of_expect_eq_ok hkeyword
  obtain ⟨openCondition, hopen⟩ := of_expect_eq_ok hopened
  obtain ⟨e, he⟩ := exists_orExpression hcondition
  obtain ⟨closeCondition, hclose⟩ := of_expect_eq_ok hclosed
  obtain ⟨openBlock, body, closeBlock, hbody⟩ := exists_block hblock
  refine ⟨⟨keyword', openCondition, e, closeCondition, openBlock⟩, body, closeBlock, ?_⟩
  have hheader : keyword'.1 :: openCondition.1 :: (e.tokens ++ closeCondition.1 ::
      openBlock.1 :: (body.tokens ++ closeBlock.1 :: last.tokens)) = ts := by
    rw [hbody, ← hclose, he, ← hopen, ← hts]
  refine Eq.trans ?_ hheader
  simp [Header.tokens, hrest, hlast₁, hlast₂, hlast₃]
termination_by (ts.length, 0)

lemma exists_block {ts : List Token} {rest : Rest ts} (h : block all ts = .ok rest) :
    ∃ (openBlock : TokenOf .leftBrace) (body : Statements) (closeBlock : TokenOf .rightBrace),
      openBlock.1 :: (body.tokens ++ closeBlock.1 :: rest.tokens) = ts := by
  rw [block] at h
  obtain ⟨opened, last, hopened, hlast, hrest⟩ := of_andThen_eq_ok h
  have := opened.shorter
  obtain ⟨openBlock, hopen⟩ := of_expect_eq_ok hopened
  obtain ⟨body, closeBlock, hbody⟩ := exists_blockStatements hlast
  refine ⟨openBlock, body, closeBlock, ?_⟩
  rw [hrest, hbody, ← hopen]
termination_by (ts.length, 1)

lemma exists_blockStatements {ts : List Token} {rest : Rest ts}
    (h : blockStatements all ts = .ok rest) :
    ∃ (body : Statements) (closeBlock : TokenOf .rightBrace),
      body.tokens ++ closeBlock.1 :: rest.tokens = ts := by
  rw [blockStatements] at h
  split_ifs at h
  · obtain ⟨first, last, hfirst, hlast, hrest⟩ := of_andThen_eq_ok h
    have := first.shorter
    obtain ⟨s, hs⟩ := exists_statement hfirst
    obtain ⟨body, closeBlock, hbody⟩ := exists_blockStatements hlast
    refine ⟨.cons s body, closeBlock, ?_⟩
    rw [Statements.tokens, List.append_assoc, hrest, hbody, hs]
  · obtain ⟨closeBlock, hclose⟩ := of_expect_eq_ok h
    exact ⟨.nil, closeBlock, hclose.symm⟩
termination_by (ts.length, 2)

end

lemma exists_statements {ts : List Token} {n : Nat} (h : statements all ts = .ok n) :
    ∃ p : Statements, p.tokens = ts ∧ p.length = n := by
  rw [statements.eq_def] at h
  cases ts with
  | nil =>
    obtain rfl := Except.ok.inj h
    exact ⟨.nil, rfl, rfl⟩
  | cons t us =>
    dsimp only at h
    cases hfirst : statement all (t :: us) with
    | error e => simp [hfirst] at h
    | ok first =>
      rw [hfirst, ok_bind] at h
      cases hmore : statements all first.tokens with
      | error e => simp [hmore] at h
      | ok m =>
        rw [hmore] at h
        obtain rfl := Except.ok.inj h
        have := first.shorter
        obtain ⟨s, hs⟩ := exists_statement hfirst
        obtain ⟨p, hp, hlength⟩ := exists_statements hmore
        refine ⟨.cons s p, ?_, ?_⟩
        · rw [Statements.tokens, hp, hs]
        · rw [Statements.length, hlength]
termination_by ts.length

end Descent

/-- The tokens of a program are the tokens of a tree. -/
theorem exists_tokens_eq {tokens : List Token} {n : Nat} (h : countStatements tokens = .ok n) :
    ∃ p : Grammar.Statements, p.tokens = tokens ∧ p.length = n := by
  have hprogram : Descent.program tokens = .ok n := by
    cases hdescent : Descent.program tokens with
    | ok m =>
      rw [countStatements, Descent.readProgram_of_program hdescent] at h
      exact h
    | error e =>
      obtain ⟨place, hplace, -⟩ := Descent.readProgram_of_program_error hdescent
      rw [countStatements, hplace] at h
      simp at h
  exact Descent.exists_statements hprogram

namespace Grammar

/-- The number of statements does not depend on the derivation. -/
theorem Derives.unique {kinds : List Kind} {m n : Nat} (hm : Derives kinds m)
    (hn : Derives kinds n) : m = n := by
  obtain ⟨p, rfl, rfl⟩ := hm
  obtain ⟨q, hq, rfl⟩ := hn
  have hread := readProgram_tokens q
  rw [hq, readProgram_tokens p] at hread
  exact Except.ok.inj hread

lemma derives_iff (tokens : List Token) (n : Nat) :
    Derives (tokens.map Token.kind) n ↔ countStatements tokens = .ok n := by
  constructor
  · rintro ⟨p, hp, rfl⟩
    rw [countStatements, ← hp, readProgram_tokens]
  · intro h
    obtain ⟨p, hp, hlength⟩ := exists_tokens_eq h
    exact ⟨p, by rw [hp], hlength⟩

end Grammar

/-- Recognition is derivation from the rules: a list of tokens is a program of as many statements
as every derivation of it has, and is rejected if there is none. -/
theorem countStatements_exact (tokens : List Token) :
    (∀ n, countStatements tokens = .ok n ↔ Grammar.Derives (tokens.map Token.kind) n) ∧
      ((∃ e, countStatements tokens = .error e) ↔
        ¬∃ n, Grammar.Derives (tokens.map Token.kind) n) ∧
      ∀ m n, Grammar.Derives (tokens.map Token.kind) m →
        Grammar.Derives (tokens.map Token.kind) n → m = n := by
  refine ⟨fun n => (Grammar.derives_iff tokens n).symm, ?_, fun m n => Grammar.Derives.unique⟩
  simp only [Grammar.derives_iff]
  cases countStatements tokens with
  | ok n => simp
  | error e => simp

end BoolWhile
