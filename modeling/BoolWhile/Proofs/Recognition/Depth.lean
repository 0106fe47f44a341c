import BoolWhile.Proofs.Recognition.Editing
import BoolWhile.Proofs.Recognition.FirstViolation

/-!
# Layers of parentheses and blocks

Parentheses around an expression, and loops around a program, are only counted, however deep they
are: what stands inside leaves the counters as it found them. So as many closing tokens as were
opened make a program, fewer of them end it too early, and the first one too many breaks it
(`nested_layers`).
-/

namespace BoolWhile

open Grammar

variable {tokens opens front xs : List Token} {t : Token} {ks : List Kind} {k closing : Kind}
  {construct : Construct} {n m c depth : Nat}

/-! ### Counters -/

namespace ExpressionState

variable {groups : Nat}

lemma read_leftParens (n : Nat) :
    read ⟨.operand, groups⟩ (List.replicate n .leftParen ++ ks) =
      read ⟨.operand, groups + n⟩ ks := by
  induction n generalizing groups with
  | zero => rfl
  | succ n ih =>
    rw [List.replicate_succ, List.cons_append, read_leftParen, ih, Nat.add_assoc, Nat.add_comm 1]

/-- Parentheses around an expression are counted, and those left open are open behind it. -/
lemma read_layers (e : Expression) (n m : Nat) (ks : List Kind) :
    read start (List.replicate (n + m) .leftParen ++
        (e.tokens.map Token.kind ++ (List.replicate m .rightParen ++ ks))) =
      read ⟨.operator, n⟩ ks := by
  rw [start, read_leftParens, read_orExpression, Nat.zero_add, read_rightParens]

end ExpressionState

namespace ProgramState

variable {statements blocks : Nat}

/-- Loops in a block are gone into, each of them one block deeper. -/
lemma run_headers (headers : List Header) :
    (⟨statements, blocks + 1, (headers.flatMap Header.tokens).map Token.kind ++ ks⟩ :
        ProgramState).run =
      (⟨statements, blocks + 1 + headers.length, ks⟩ : ProgramState).run := by
  induction headers generalizing blocks with
  | nil => rfl
  | cons header headers ih =>
    rw [List.flatMap_cons, List.map_append, List.append_assoc,
      run_of_next (step_header header statements (blocks + 1) _), if_neg (Nat.succ_ne_zero blocks),
      ih, List.length_cons, Nat.add_assoc (blocks + 1), Nat.add_comm 1]

end ProgramState

/-! ### Fewer and more closing tokens -/

/-- Nothing is closed behind a program. -/
lemma breaksAt_behind_program (h : countStatements xs = .ok n)
    (ht : t.kind = .rightParen ∨ t.kind = .rightBrace) (ys : List Token) :
    ∃ e, BreaksAt (xs ++ t :: ys) xs.length e ∧ e.expected = "expression" := by
  rw [countStatements_eq_ok_iff, Progress.readProgram_eq_run] at h
  obtain ⟨s, hs, hmissing, -⟩ := Progress.exists_reach?_of_run h
  have hrefused : s.step t.kind = .error .expression := by
    rcases ht with ht | ht <;> rw [ht, Progress.step_of_missing?_eq_none hmissing rfl] <;> rfl
  exact ⟨_, breaksAt_of_refused hs hrefused, rfl⟩

/-- As many closing tokens as there are layers open behind a text make a program of it, fewer of
them end it too early, and the first one too many breaks it. -/
structure ClosedBy (front : List Token) (depth : Nat) (closing : Kind) (missing : String)
    (count : Nat) : Prop where
  closed : ∀ closes : List Token, (∀ t ∈ closes, t.kind = closing) → closes.length = depth →
    countStatements (front ++ closes) = .ok count
  fewer : ∀ closes : List Token, (∀ t ∈ closes, t.kind = closing) → closes.length < depth →
    ∃ e, EndsEarly (front ++ closes) e ∧ e.expected = missing
  more : ∀ closes : List Token, (∀ t ∈ closes, t.kind = closing) → depth < closes.length →
    ∃ e, BreaksAt (front ++ closes) (front.length + depth) e ∧ e.expected = "expression"

lemma map_kind_eq_replicate (h : ∀ t ∈ tokens, t.kind = k) :
    tokens.map Token.kind = List.replicate tokens.length k :=
  List.eq_replicate_iff.2 ⟨List.length_map _, by simpa using h⟩

/-- What any closing tokens do is known from what is read with as many as fit, and with `m` of them
if `n + 1` layers are left open. -/
lemma closedBy_of_readProgram (construct : Construct)
    (hclosing : closing = .rightParen ∨ closing = .rightBrace)
    (hclosed : readProgram (front.map Token.kind ++ List.replicate depth closing) = .ok c)
    (hopen : ∀ n m, depth = n + 1 + m →
      readProgram (front.map Token.kind ++ List.replicate m closing) = .error ⟨construct, []⟩) :
    ClosedBy front depth closing construct.description c := by
  have hcount : ∀ closes : List Token, (∀ t ∈ closes, t.kind = closing) →
      closes.length = depth → countStatements (front ++ closes) = .ok c := by
    rintro closes hkinds rfl
    rw [countStatements_eq_ok_iff, List.map_append, map_kind_eq_replicate hkinds, hclosed]
  refine ⟨hcount, ?_, ?_⟩
  · intro closes hkinds hlength
    obtain ⟨n, hn⟩ := Nat.exists_eq_add_of_lt hlength
    refine endsEarly_of_stuck ?_
    rw [List.map_append, map_kind_eq_replicate hkinds, hopen n _ (by omega)]
  · intro closes hkinds hlength
    -- The closing tokens that fit make a program, and the next one stands behind it.
    have hfit : (closes.take depth).length = depth := List.length_take_of_le hlength.le
    have hprogram := hcount _ (fun t ht => hkinds t (List.mem_of_mem_take ht)) hfit
    have hsurplus : closes[depth].kind = closing := hkinds _ (List.getElem_mem hlength)
    have hbreaks := breaksAt_behind_program (t := closes[depth]) hprogram
      (hsurplus ▸ hclosing) (closes.drop (depth + 1))
    rwa [List.append_assoc, ← List.drop_eq_getElem_cons hlength, List.take_append_drop,
      List.length_append, hfit] at hbreaks

/-! ### Parentheses around an expression, and loops around a program -/

lemma readProgram_eq_readExpression (hne : ks ≠ []) (hwhile : ks.head? ≠ some .whileWord) :
    readProgram ks =
      readExpression ks >>= fun rest => (⟨1, 0, rest⟩ : ProgramState).run := by
  cases ks with
  | nil => exact absurd rfl hne
  | cons k ks => exact ProgramState.run_expression (by simpa using hwhile) (.inl rfl)

lemma readProgram_leftParens (e : Expression) (h : ∀ t ∈ opens, t.kind = .leftParen)
    (hlength : opens.length = n + m) :
    readProgram ((opens ++ e.tokens).map Token.kind ++ List.replicate m .rightParen) =
      ExpressionState.read ⟨.operator, n⟩ [] >>= fun rest =>
        (⟨1, 0, rest⟩ : ProgramState).run := by
  obtain ⟨k, ks, hkinds, hk⟩ := exists_begin e (List.replicate m .rightParen)
  have hwhile : k ≠ .whileWord := by
    rintro rfl
    simp [Kind.isLiteral] at hk
  have hlayers := ExpressionState.read_layers e n m []
  rw [List.append_nil] at hlayers
  rw [List.map_append, List.append_assoc, map_kind_eq_replicate h, hlength,
    readProgram_eq_readExpression, readExpression, hlayers]
  · simp [hkinds]
  · rw [hkinds, List.head?_append]
    cases n + m <;> simp [hwhile, List.replicate_succ]

lemma readProgram_headers (headers : List Header) (h : countStatements tokens = .ok c)
    (hlength : headers.length = n + m) :
    readProgram ((headers.flatMap Header.tokens ++ tokens).map Token.kind ++
        List.replicate m .rightBrace) =
      (⟨if headers = [] then c else 1, n, []⟩ : ProgramState).run := by
  have hends := endsExpression_rightBraces m
  rw [readProgram, ProgramState.start, List.map_append, List.append_assoc]
  cases headers with
  | nil =>
    obtain ⟨rfl, rfl⟩ : n = 0 ∧ m = 0 := by simpa [eq_comm] using hlength
    rw [List.flatMap_nil, List.map_nil, List.nil_append, ProgramState.run_program h hends]
    simp
  | cons header headers =>
    have hdepth : 0 + 1 + headers.length = n + m := by
      rw [← hlength, List.length_cons]
      omega
    have hopen : n + m ≠ 0 := by
      rw [← hlength]
      exact Nat.succ_ne_zero _
    have hclose := ProgramState.run_rightBraces 1 n m []
    rw [List.append_nil] at hclose
    rw [List.flatMap_cons, List.map_append, List.append_assoc,
      ProgramState.run_of_next (step_header header 0 0 _), ProgramState.run_headers,
      ProgramState.run_program h hends, hdepth, if_neg hopen]
    exact hclose

/-- Parentheses around an expression and loops around a program are counted. As many closing tokens
as were opened make a single statement, fewer of them leave the innermost layer open at the end,
and the first one too many is rejected where an expression may stand. -/
theorem nested_layers :
    (∀ (opens : List Token) (e : Expression), (∀ t ∈ opens, t.kind = .leftParen) →
        ClosedBy (opens ++ e.tokens) opens.length .rightParen
          "')' to close parenthesized expression" 1) ∧
      ∀ (headers : List Header) (program : List Token) (n : Nat),
        countStatements program = .ok n →
          ClosedBy (headers.flatMap Header.tokens ++ program) headers.length .rightBrace
            "'\x7d' to close block" (if headers = [] then n else 1) := by
  constructor
  · intro opens e hopens
    refine closedBy_of_readProgram .closeGroup (.inl rfl) ?_ (fun n m hlength => ?_)
    · rw [readProgram_leftParens e hopens (Nat.zero_add _).symm]
      exact ProgramState.run_nil
    · rw [readProgram_leftParens e hopens hlength]
      rfl
  · intro headers program n hprogram
    refine closedBy_of_readProgram .closeBlock (.inr rfl) ?_ (fun d m hlength => ?_)
    · rw [readProgram_headers headers hprogram (Nat.zero_add _).symm, ProgramState.run_nil]
    · rw [readProgram_headers headers hprogram hlength, ProgramState.run_nil_open]

/-- Two parentheses around a name, and two loops around two names, with one closing token missing
and one too many. -/
theorem nested_layers_two :
    let xs := readTokens .anywhere unnamed "((a)))"
    let ys := readTokens .anywhere unnamed "while (a) { while (b) { c d } } \x7d"
    ((∀ t ∈ xs.take 2, t.kind = .leftParen) ∧ (∀ t ∈ xs.drop 3, t.kind = .rightParen) ∧
        countStatements (xs.take 5) = .ok 1 ∧
        (∃ e, EndsEarly (xs.take 4) e ∧ e.expected = "')' to close parenthesized expression") ∧
        ∃ e, BreaksAt xs 5 e ∧ e.expected = "expression") ∧
      countStatements (ys.extract 10 12) = .ok 2 ∧
        (∀ t ∈ ys.drop 12, t.kind = .rightBrace) ∧
        countStatements (ys.take 14) = .ok 1 ∧
        (∃ e, EndsEarly (ys.take 13) e ∧ e.expected = "'\x7d' to close block") ∧
        ∃ e, BreaksAt ys 14 e ∧ e.expected = "expression" := by
  intro xs ys
  have hopens : ∀ t ∈ xs.take 2, t.kind = .leftParen := by decide +kernel
  have hparens : ∀ t ∈ xs.drop 3, t.kind = .rightParen := by decide +kernel
  have hprogram : countStatements (ys.extract 10 12) = .ok 2 := by decide +kernel
  have hbraces : ∀ t ∈ ys.drop 12, t.kind = .rightBrace := by decide +kernel
  have hname : Cursor.overExpression ⟨xs, 2⟩ = .ok ⟨xs, 3⟩ := by decide +kernel
  have houterLoop : Cursor.overHeader ⟨ys, 0⟩ = .ok ⟨ys, 5⟩ := by decide +kernel
  have hinnerLoop : Cursor.overHeader ⟨ys, 5⟩ = .ok ⟨ys, 10⟩ := by decide +kernel
  obtain ⟨a, ha⟩ := (overExpression_eq_ok_iff.1 hname).derived
  obtain ⟨outer, houter⟩ := (overHeader_eq_ok_iff.1 houterLoop).derived
  obtain ⟨inner, hinner⟩ := (overHeader_eq_ok_iff.1 hinnerLoop).derived
  have hparensOpen : xs.take 2 ++ xs.extract 2 3 = xs.take 3 := by decide +kernel
  have hdepth : (xs.take 2).length = 2 := by decide +kernel
  have hgroups := nested_layers.1 (xs.take 2) a hopens
  rw [ha, hparensOpen, hdepth] at hgroups
  have hloopsOpen :
      ys.extract 0 5 ++ (ys.extract 5 10 ++ []) ++ ys.extract 10 12 = ys.take 12 := by
    decide +kernel
  have hblocks := nested_layers.2 [outer, inner] (ys.extract 10 12) 2 hprogram
  rw [List.flatMap_cons, List.flatMap_cons, List.flatMap_nil, houter, hinner, hloopsOpen,
    if_neg (List.cons_ne_nil _ _)] at hblocks
  -- The first closing tokens of each kind are taken.
  have hparen (m : Nat) : ∀ t ∈ (xs.drop 3).take m, t.kind = .rightParen := fun t ht =>
    hparens t (List.mem_of_mem_take ht)
  have hbrace (m : Nat) : ∀ t ∈ (ys.drop 12).take m, t.kind = .rightBrace := fun t ht =>
    hbraces t (List.mem_of_mem_take ht)
  have hparenLengths : (xs.take 3).length = 3 ∧ (xs.drop 3).length = 3 := by decide +kernel
  have hbraceLengths : (ys.take 12).length = 12 ∧ (ys.drop 12).length = 3 := by decide +kernel
  refine ⟨⟨hopens, hparens, ?_, ?_, ?_⟩, hprogram, hbraces, ?_, ?_, ?_⟩
  · rw [List.take_add (i := 3) (j := 2)]
    exact hgroups.closed _ (hparen 2) (by simp [hparenLengths])
  · rw [List.take_add (i := 3) (j := 1)]
    exact hgroups.fewer _ (hparen 1) (by simp [hparenLengths])
  · have hmore := hgroups.more _ hparens (by simp [hparenLengths])
    rwa [List.take_append_drop, hparenLengths.1] at hmore
  · rw [List.take_add (i := 12) (j := 2)]
    exact hblocks.closed _ (hbrace 2) (by simp [hbraceLengths])
  · rw [List.take_add (i := 12) (j := 1)]
    exact hblocks.fewer _ (hbrace 1) (by simp [hbraceLengths])
  · have hmore := hblocks.more _ hbraces (by simp [hbraceLengths])
    rwa [List.take_append_drop, hbraceLengths.1] at hmore

end BoolWhile
