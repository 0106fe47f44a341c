import BoolWhile.Proofs.Recognition.Descent
import BoolWhile.Proofs.Recognition.Report

/-!
# The loops do what recursive descent does

The frames that are pending in a descent are told apart by nothing but their number: those of
parentheses by `ExpressionState.groups`, those of blocks by `ProgramState.blocks`. So each
function of the descent is compared with the loops for every number of open parentheses or blocks
around it. Where it ends, the loops are behind the same tokens with the same number. Where it
fails, they fail at the same place, which is inside of it and the same for every number.
-/

namespace BoolWhile

namespace Descent

variable {all ts us : List Token} {place : Stuck} {e : SyntaxError}

/-! ### Errors -/

/-- An error is the report on a place that is met on the way through some tokens. -/
def Reports (all ts : List Token) (place : Stuck) (e : SyntaxError) : Prop :=
  ∃ unread, unread <:+ ts ∧ place.unread = unread.map Token.kind ∧
    e = missing all place.construct.description place.construct.kind? unread

lemma Reports.of_suffix (h : Reports all us place e) (hus : us <:+ ts) :
    Reports all ts place e := by
  obtain ⟨unread, hunread, hkinds, he⟩ := h
  exact ⟨unread, hunread.trans hus, hkinds, he⟩

lemma Reports.eq_error (h : Reports all all place e) : e = place.error all := by
  obtain ⟨unread, ⟨before, rfl⟩, hkinds, rfl⟩ := h
  obtain ⟨construct, kinds⟩ := place
  obtain rfl : kinds = unread.map Token.kind := hkinds
  cases unread with
  | nil => exact Stuck.error_nil.symm
  | cons t unread => exact (Stuck.error_cons (by simp)).symm

lemma reports_missing (construct : Construct) (ts : List Token) :
    Reports all ts ⟨construct, ts.map Token.kind⟩
      (missing all construct.description construct.kind? ts) :=
  ⟨ts, List.suffix_rfl, rfl, rfl⟩

/-! ### What it is to be simulated -/

/-- What a function of the descent reads of some tokens, one run of loops reads on its way to
another, whatever the number of parentheses and blocks `i` around it. -/
def Simulates {ι α : Type} (all : List Token) (loop behind : ι → List Kind → Except Stuck α)
    (leaves : List Token → Prop) (ts : List Token) : Except SyntaxError (Rest ts) → Prop
  | .ok rest =>
    (∀ i, loop i (ts.map Token.kind) = behind i (rest.tokens.map Token.kind)) ∧
      leaves rest.tokens
  | .error e =>
    ∃ place, Reports all ts place e ∧ ∀ i, loop i (ts.map Token.kind) = .error place

section

variable {ι α : Type} {loop between behind : ι → List Kind → Except Stuck α}
  {leaves leaves' : List Token → Prop}

lemma Simulates.andThen {first : Except SyntaxError (Rest ts)}
    {next : (r : Rest ts) → Except SyntaxError (Rest r.tokens)}
    (hfirst : Simulates all loop between leaves ts first)
    (hnext : ∀ r : Rest ts, leaves r.tokens →
      Simulates all between behind leaves' r.tokens (next r)) :
    Simulates all loop behind leaves' ts (andThen first next) := by
  cases first with
  | error e => exact hfirst
  | ok r =>
    obtain ⟨hread, hleaves⟩ := hfirst
    have hrest := hnext r hleaves
    rw [Descent.andThen, ok_bind]
    cases hresult : next r with
    | error e =>
      rw [hresult] at hrest
      obtain ⟨place, hplace, hstuck⟩ := hrest
      refine ⟨place, hplace.of_suffix r.suffix, fun i => ?_⟩
      rw [hread, hstuck]
    | ok s =>
      rw [hresult] at hrest
      constructor
      · intro i
        rw [hread]
        exact hrest.1 i
      · exact hrest.2

lemma Simulates.mono {outcome : Except SyntaxError (Rest ts)}
    (h : Simulates all loop behind leaves ts outcome) (hmono : ∀ us, leaves us → leaves' us) :
    Simulates all loop behind leaves' ts outcome := by
  cases outcome with
  | error e => exact h
  | ok r => exact ⟨h.1, hmono _ h.2⟩

/-- Only some of the numbers around are looked at. -/
lemma Simulates.comp {κ : Type} {outcome : Except SyntaxError (Rest ts)}
    (h : Simulates all loop behind leaves ts outcome) (f : κ → ι) :
    Simulates all (fun i => loop (f i)) (fun i => behind (f i)) leaves ts outcome := by
  cases outcome with
  | error e =>
    obtain ⟨place, hplace, hstuck⟩ := h
    exact ⟨place, hplace, fun i => hstuck (f i)⟩
  | ok r => exact ⟨fun i => h.1 (f i), h.2⟩

/-- The construct that a loop looks for first is the one that is expected. -/
lemma simulates_expect (construct : Construct) {kind : Kind} (h : construct.kind? = some kind)
    (hloop : ∀ i, loop i (ts.map Token.kind) =
      construct.read (ts.map Token.kind) >>= behind i) :
    Simulates all loop behind (fun _ => True) ts (expect all kind construct.description ts) := by
  cases ts with
  | nil =>
    refine ⟨⟨construct, []⟩, h ▸ reports_missing construct [], fun i => ?_⟩
    rw [hloop]
    rfl
  | cons t ts =>
    rw [expect]
    by_cases ht : t.kind = kind
    · rw [if_pos ht]
      constructor
      · intro i
        rw [hloop, List.map_cons, Construct.read, if_pos (by rw [h, ht])]
        rfl
      · trivial
    · rw [if_neg ht]
      refine ⟨_, h ▸ reports_missing construct (t :: ts), fun i => ?_⟩
      have hkind : construct.kind? ≠ some t.kind := by
        rw [h]
        exact fun heq => ht (Option.some.inj heq).symm
      rw [hloop, List.map_cons, Construct.read, if_neg hkind]
      rfl

end

/-! ### Expressions -/

/-- The loop over operands where it looks for an operand, for any number of open parentheses. -/
def operandLoop (groups : Nat) : List Kind → Except Stuck (List Kind) :=
  ExpressionState.read ⟨.operand, groups⟩

/-- The loop over operands behind an operand. -/
def operatorLoop (groups : Nat) : List Kind → Except Stuck (List Kind) :=
  ExpressionState.read ⟨.operator, groups⟩

/-- No operator of a class is next. -/
def NotNext (isOperator : Kind → Bool) (ts : List Token) : Prop :=
  ∀ t ∈ ts.head?, isOperator t.kind = false

lemma NotNext.endsExpression (h : NotNext Kind.isBinary ts) :
    EndsExpression (ts.map Token.kind) := by
  cases ts with
  | nil => exact endsExpression_nil
  | cons t ts => exact endsExpression_cons.2 (h t rfl)

lemma of_operator?_eq_some {isOperator : Kind → Bool} {behind : Rest ts}
    (h : operator? isOperator ts = some behind) :
    ∃ t, ts = t :: behind.tokens ∧ isOperator t.kind = true := by
  cases ts with
  | nil => simp [operator?] at h
  | cons t ts =>
    rw [operator?] at h
    split at h
    · rename_i ht
      obtain rfl := Option.some.inj h
      exact ⟨t, rfl, ht⟩
    · simp at h

lemma of_operator?_eq_none {isOperator : Kind → Bool} (h : operator? isOperator ts = none) :
    NotNext isOperator ts := by
  cases ts with
  | nil => simp [NotNext]
  | cons t ts =>
    rw [operator?] at h
    split at h
    · simp at h
    · rename_i ht
      simpa [NotNext] using ht

/-- Operands joined by the operators of one level. -/
lemma simulates_repetition {tighter operators looser : Kind → Bool}
    (hbinary : ∀ k, operators k = true → k.isBinary = true)
    (hlooser : ∀ k, tighter k = false → operators k = false → looser k = false)
    {operand : Except SyntaxError (Rest ts)}
    {again : (us : List Token) → Except SyntaxError (Rest us)}
    (hoperand : Simulates all operandLoop operatorLoop (NotNext tighter) ts operand)
    (hagain : ∀ us, us.length < ts.length →
      Simulates all operandLoop operatorLoop (NotNext looser) us (again us)) :
    Simulates all operandLoop operatorLoop (NotNext looser) ts do
      let first ← operand
      match operator? operators first.tokens with
      | some behind => return first.trans (behind.trans (← again behind.tokens))
      | none => return first := by
  cases operand with
  | error e => exact hoperand
  | ok first =>
    obtain ⟨hread, hnext⟩ := hoperand
    rw [ok_bind]
    cases hop : operator? operators first.tokens with
    | none => exact ⟨hread, fun t ht => hlooser _ (hnext t ht) (of_operator?_eq_none hop t ht)⟩
    | some behind =>
      obtain ⟨t, htokens, ht⟩ := of_operator?_eq_some hop
      -- An operator leads back to where an operand is looked for.
      have hskip : Simulates all operandLoop operandLoop (fun _ => True) ts
          (.ok (first.trans behind)) := by
        constructor
        · intro groups
          have hkinds := congrArg (List.map Token.kind) htokens
          rw [hread, hkinds, List.map_cons]
          exact ExpressionState.read_binary (hbinary _ ht)
        · trivial
      exact hskip.andThen fun r _ => hagain r.tokens r.shorter

/-- The operators inside the operands of `||`. -/
def isTight (k : Kind) : Bool := k.isRelational || k = .logicalAnd

mutual

lemma simulates_primary (all ts : List Token) (hnot : NotNext (· = .logicalNot) ts) :
    Simulates all operandLoop operatorLoop (NotNext fun _ => false) ts (primary all ts) := by
  rw [primary.eq_def]
  match ts with
  | [] => exact ⟨⟨.expression, []⟩, reports_missing .expression [], fun _ => rfl⟩
  | t :: ts =>
    dsimp only
    by_cases hliteral : t.kind.isLiteral = true
    · rw [if_pos hliteral]
      exact ⟨fun groups => ExpressionState.read_literal hliteral, fun _ _ => rfl⟩
    rw [if_neg hliteral]
    by_cases hparen : t.kind = .leftParen
    · rw [if_pos hparen]
      have hopened : Simulates all operandLoop (fun groups => operandLoop (groups + 1))
          (fun _ => True) (t :: ts) (.ok (.tail t ts)) := by
        constructor
        · intro groups
          rw [List.map_cons, hparen]
          exact ExpressionState.read_leftParen
        · trivial
      refine hopened.andThen fun opened _ => ?_
      -- The frame of this group is the one that `groups + 1` counts more than `groups`.
      have hinner : Simulates all (fun groups => operandLoop (groups + 1))
          (fun groups => operatorLoop (groups + 1)) (NotNext Kind.isBinary) opened.tokens
          (orExpression all opened.tokens) :=
        (simulates_orExpression all opened.tokens).comp (· + 1)
      refine hinner.andThen fun inner hends => ?_
      refine (simulates_expect .closeGroup rfl fun groups => ?_).mono ?_
      · exact ExpressionState.read_operator_succ hends.endsExpression
      · exact fun _ _ _ _ => rfl
    · rw [if_neg hparen]
      refine ⟨_, reports_missing .expression (t :: ts), fun groups => ?_⟩
      have hkind : t.kind ≠ .logicalNot := of_decide_eq_false (hnot t rfl)
      exact ExpressionState.read_operand_stuck hkind hparen (by simpa using hliteral)
termination_by (ts.length, 0)
decreasing_by exact Prod.Lex.left _ _ opened.shorter

lemma simulates_notExpression (all ts : List Token) :
    Simulates all operandLoop operatorLoop (NotNext fun _ => false) ts (notExpression all ts) := by
  rw [notExpression]
  cases hop : operator? (· = .logicalNot) ts with
  | none => exact simulates_primary all ts (of_operator?_eq_none hop)
  | some behind =>
    obtain ⟨t, htokens, ht⟩ := of_operator?_eq_some hop
    have hskip : Simulates all operandLoop operandLoop (fun _ => True) ts (.ok behind) := by
      constructor
      · intro groups
        have hkinds := congrArg (List.map Token.kind) htokens
        rw [hkinds, List.map_cons, of_decide_eq_true ht]
        exact ExpressionState.read_not
      · trivial
    exact hskip.andThen fun r _ => simulates_notExpression all r.tokens
termination_by (ts.length, 1)
decreasing_by
  · decreasing_tactic
  · exact Prod.Lex.left _ _ r.shorter

lemma simulates_relExpression (all ts : List Token) :
    Simulates all operandLoop operatorLoop (NotNext Kind.isRelational) ts
      (relExpression all ts) := by
  rw [relExpression]
  refine simulates_repetition ?_ ?_ (simulates_notExpression all ts)
    fun us hus => simulates_relExpression all us
  · intro k hk
    exact Kind.isBinary_of_isRelational hk
  · intro k _ hk
    exact hk
termination_by (ts.length, 2)

lemma simulates_andExpression (all ts : List Token) :
    Simulates all operandLoop operatorLoop (NotNext isTight) ts (andExpression all ts) := by
  rw [andExpression]
  refine simulates_repetition ?_ ?_ (simulates_relExpression all ts)
    fun us hus => simulates_andExpression all us
  · intro k hk
    obtain rfl := of_decide_eq_true hk
    rfl
  · intro k hrelational hand
    simp [isTight, hrelational, hand]
termination_by (ts.length, 3)

lemma simulates_orExpression (all ts : List Token) :
    Simulates all operandLoop operatorLoop (NotNext Kind.isBinary) ts (orExpression all ts) := by
  rw [orExpression]
  refine simulates_repetition ?_ ?_ (simulates_andExpression all ts)
    fun us hus => simulates_orExpression all us
  · intro k hk
    obtain rfl := of_decide_eq_true hk
    rfl
  · intro k htight hor
    cases k <;> simp_all [isTight, Kind.isRelational, Kind.isBinary]
termination_by (ts.length, 4)

end

/-- Outside all parentheses, an expression is read as a whole. -/
lemma simulates_expression {ι α : Type} {loop behind : ι → List Kind → Except Stuck α}
    (hloop : ∀ i, loop i (ts.map Token.kind) =
      readExpression (ts.map Token.kind) >>= behind i) :
    Simulates all loop behind (fun _ => True) ts (expression all ts) := by
  have h := simulates_orExpression all ts
  rw [expression]
  cases hresult : orExpression all ts with
  | error e =>
    rw [hresult] at h
    obtain ⟨place, hplace, hstuck⟩ := h
    refine ⟨place, hplace, fun i => ?_⟩
    have hread : readExpression (ts.map Token.kind) = .error place := hstuck 0
    rw [hloop, hread]
    rfl
  | ok rest =>
    rw [hresult] at h
    obtain ⟨hread, hends⟩ := h
    have hread : readExpression (ts.map Token.kind) = .ok (rest.tokens.map Token.kind) :=
      (hread 0).trans (ExpressionState.read_operator_zero hends.endsExpression)
    constructor
    · intro i
      rw [hloop, hread]
      rfl
    · trivial

/-! ### Statements -/

section

variable {ι : Type}

/-- The loop over statements, for any number of statements and open blocks before it. -/
def statementLoop (counts : ι → Nat × Nat) (i : ι) (ks : List Kind) : Except Stuck Nat :=
  (⟨(counts i).1, (counts i).2, ks⟩ : ProgramState).run

/-- The numbers of statements and open blocks behind one more statement. -/
def counted (counts : ι → Nat × Nat) (i : ι) : Nat × Nat :=
  (if (counts i).2 = 0 then (counts i).1 + 1 else (counts i).1, (counts i).2)

/-- The numbers of statements and open blocks inside one more block. -/
def opened (counts : ι → Nat × Nat) (i : ι) : Nat × Nat := ((counts i).1, (counts i).2 + 1)

end

mutual

lemma simulates_statement {ι : Type} (all : List Token) (t : Token) (ts : List Token)
    (counts : ι → Nat × Nat) (hclose : ∀ i, (counts i).2 = 0 ∨ t.kind ≠ .rightBrace) :
    Simulates all (statementLoop counts) (statementLoop (counted counts)) (fun _ => True)
      (t :: ts) (statement all (t :: ts)) := by
  rw [statement]
  by_cases hwhile : t.kind = .whileWord
  · rw [if_pos hwhile]
    exact simulates_whileStatement all t ts hwhile counts
  · rw [if_neg hwhile]
    exact simulates_expression fun i => ProgramState.run_expression hwhile (hclose i)
termination_by ((t :: ts).length, 1)

lemma simulates_whileStatement {ι : Type} (all : List Token) (t : Token) (ts : List Token)
    (ht : t.kind = .whileWord) (counts : ι → Nat × Nat) :
    Simulates all (statementLoop counts) (statementLoop (counted counts)) (fun _ => True)
      (t :: ts) (whileStatement all (t :: ts)) := by
  have hheader : ∀ i, statementLoop counts i ((t :: ts).map Token.kind) =
      Construct.whileKeyword.read ((t :: ts).map Token.kind) >>= fun ks =>
        Construct.openCondition.read ks >>= fun ks =>
          readExpression ks >>= fun ks =>
            Construct.closeCondition.read ks >>= fun ks =>
              Construct.openBlock.read ks >>= statementLoop (opened (counted counts)) i := by
    intro i
    have hrun : statementLoop counts i (.whileWord :: ts.map Token.kind) =
        readHeader (.whileWord :: ts.map Token.kind) >>=
          statementLoop (opened (counted counts)) i := ProgramState.run_while
    rw [List.map_cons, ht, hrun]
    simp only [readHeader, bind_assoc]
  rw [whileStatement]
  refine (simulates_expect .whileKeyword rfl hheader).andThen fun keyword _ => ?_
  refine (simulates_expect .openCondition rfl fun _ => rfl).andThen fun opened _ => ?_
  refine (simulates_expression fun _ => rfl).andThen fun condition _ => ?_
  refine (simulates_expect .closeCondition rfl fun _ => rfl).andThen fun closed _ => ?_
  exact simulates_block all closed.tokens (counted counts)
termination_by ((t :: ts).length, 0)
decreasing_by
  exact Prod.Lex.left _ _ (keyword.trans (opened.trans (condition.trans closed))).shorter

lemma simulates_block {ι : Type} (all ts : List Token) (counts : ι → Nat × Nat) :
    Simulates all (fun i ks => Construct.openBlock.read ks >>= statementLoop (opened counts) i)
      (statementLoop counts) (fun _ => True) ts (block all ts) := by
  rw [block]
  refine (simulates_expect .openBlock rfl fun _ => rfl).andThen fun opened _ => ?_
  exact simulates_blockStatements all opened.tokens counts
termination_by (ts.length, 1)
decreasing_by exact Prod.Lex.left _ _ opened.shorter

lemma simulates_blockStatements {ι : Type} (all ts : List Token) (counts : ι → Nat × Nat) :
    Simulates all (statementLoop (opened counts)) (statementLoop counts) (fun _ => True)
      ts (blockStatements all ts) := by
  rw [blockStatements]
  split_ifs with hnext
  · match ts with
    | [] => simp at hnext
    | t :: us =>
      have hclose : ∀ i, (opened counts i).2 = 0 ∨ t.kind ≠ .rightBrace :=
        fun _ => .inr (by simpa using hnext)
      -- Inside a block no statement is counted.
      have hcounted : counted (opened counts) = opened counts := by
        funext i
        simp [counted, opened]
      have hfirst := simulates_statement all t us (opened counts) hclose
      rw [hcounted] at hfirst
      exact hfirst.andThen fun first _ => simulates_blockStatements all first.tokens counts
  · refine simulates_expect .closeBlock rfl fun i => ?_
    match ts with
    | [] => exact ProgramState.run_nil_open
    | t :: us =>
      have ht : t.kind = .rightBrace := by simpa using hnext
      rw [List.map_cons, ht]
      exact ProgramState.run_closeBlock
termination_by (ts.length, 2)
decreasing_by
  · decreasing_tactic
  · exact Prod.Lex.left _ _ first.shorter

end

/-! ### Programs -/

/-- The numbers that a program is read with outside all blocks. -/
def outside (n : Nat) : Nat × Nat := (n, 0)

lemma simulates_statements (all ts : List Token) :
    match statements all ts with
    | .ok m => ∀ n, statementLoop outside n (ts.map Token.kind) = .ok (n + m)
    | .error e => ∃ place, Reports all ts place e ∧
        ∀ n, statementLoop outside n (ts.map Token.kind) = .error place := by
  match ts with
  | [] =>
    rw [statements]
    exact fun n => ProgramState.run_nil
  | t :: us =>
    have hfirst := simulates_statement all t us outside fun _ => .inl rfl
    rw [statements]
    cases hresult : statement all (t :: us) with
    | error e =>
      rw [hresult] at hfirst
      exact hfirst
    | ok first =>
      rw [hresult] at hfirst
      have hmore := simulates_statements all first.tokens
      have hcounted : ∀ n ks, statementLoop (counted outside) n ks =
          statementLoop outside (n + 1) ks := fun _ _ => rfl
      rw [ok_bind]
      cases hrest : statements all first.tokens with
      | error e =>
        rw [hrest] at hmore
        obtain ⟨place, hplace, hstuck⟩ := hmore
        refine ⟨place, hplace.of_suffix first.suffix, fun n => ?_⟩
        rw [hfirst.1, hcounted, hstuck]
      | ok m =>
        rw [hrest] at hmore
        intro n
        rw [hfirst.1, hcounted, hmore, Nat.add_assoc, Nat.add_comm 1]
termination_by ts.length
decreasing_by exact first.shorter

/-- Descent accepts the same programs. -/
lemma readProgram_of_program {tokens : List Token} {n : Nat} (h : program tokens = .ok n) :
    readProgram (tokens.map Token.kind) = .ok n := by
  have hsimulates := simulates_statements tokens tokens
  rw [program] at h
  rw [h] at hsimulates
  have hzero := hsimulates 0
  rw [Nat.zero_add] at hzero
  exact hzero

/-- Descent rejects where the loops do. -/
lemma readProgram_of_program_error {tokens : List Token} (h : program tokens = .error e) :
    ∃ place, readProgram (tokens.map Token.kind) = .error place ∧ e = place.error tokens := by
  have hsimulates := simulates_statements tokens tokens
  rw [program] at h
  rw [h] at hsimulates
  obtain ⟨place, hplace, hstuck⟩ := hsimulates
  exact ⟨place, hstuck 0, hplace.eq_error⟩

end Descent

/-- Recognition by counters is recursive descent, errors included. -/
theorem countStatements_eq_program (tokens : List Token) :
    countStatements tokens = Descent.program tokens := by
  rw [countStatements]
  cases h : Descent.program tokens with
  | ok n => rw [Descent.readProgram_of_program h]
  | error e =>
    obtain ⟨place, hplace, rfl⟩ := Descent.readProgram_of_program_error h
    rw [hplace]

end BoolWhile
