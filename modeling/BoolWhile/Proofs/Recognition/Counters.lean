import BoolWhile.Proofs.Recognition.Boundary
import BoolWhile.Proofs.Recognition.Brackets

/-!
# Two counters instead of a stack

The loops of recognition remember how many blocks and how many parentheses are open, but not in
which order they were opened. At every boundary the first number is the one of the braces that the
tokens before it leave open, and they leave no parenthesis open; inside an expression the second
number is the one of its own parentheses, and there is no brace among its tokens. So a brace and a
parenthesis cannot be closed in the wrong order, although no stack remembers theirs.
-/

namespace BoolWhile

open Grammar Relation

variable {tokens : List Token} {i j first index groups blocks : Nat} {k : Kind}
  {ks rest : List Kind}

/-! ### Tokens before and behind an index -/

lemma map_drop_eq_cons {t : Token} (ht : tokens[index]? = some t) :
    (tokens.drop index).map Token.kind = t.kind :: (tokens.drop (index + 1)).map Token.kind := by
  obtain ⟨hindex, rfl⟩ := List.getElem?_eq_some_iff.1 ht
  rw [List.drop_eq_getElem_cons hindex, List.map_cons]

/-- The tokens up to one, and that one. -/
lemma extract_succ {t : Token} (h : first ≤ index) (ht : tokens[index]? = some t) :
    tokens.extract first (index + 1) = tokens.extract first index ++ [t] := by
  have hdrop : (tokens.drop first)[index - first]? = some t := by
    rw [List.getElem?_drop, Nat.add_sub_cancel' h, ht]
  rw [List.extract_eq_take_drop, List.extract_eq_take_drop, Nat.succ_sub h, List.take_add_one,
    hdrop]
  rfl

/-! ### Inside an expression -/

/-- The kinds of the tokens of expressions. -/
def Kind.isOfExpression : Kind → Bool
  | logicalNot | leftParen | rightParen => true
  | k => k.isLiteral || k.isBinary

namespace Kind

lemma isOfExpression_of_part (h : k.isLiteral = true ∨ k.isBinary = true) :
    k.isOfExpression = true := by
  cases k <;> simp_all [isOfExpression]

/-- Literals and operators are no brackets. -/
lemma ne_bracket (h : k.isLiteral = true ∨ k.isBinary = true) (b : Bracket) :
    k ≠ b.opening ∧ k ≠ b.closing := by
  rcases h with h | h <;> cases b <;> constructor <;> rintro rfl <;> cases h

/-- No brace belongs to an expression. -/
lemma ne_brace_of_isOfExpression (h : k.isOfExpression = true) :
    k ≠ Bracket.brace.opening ∧ k ≠ Bracket.brace.closing := by
  constructor <;> rintro rfl <;> cases h

end Kind

/-- The tokens of an expression up to a place where so many of its parentheses are open. -/
structure OpensGroups (ks : List Kind) (groups : Nat) : Prop where
  parens : Bracket.paren.Leaves ks groups
  isOfExpression : ∀ k ∈ ks, k.isOfExpression = true

namespace OpensGroups

lemma nil : OpensGroups [] 0 := ⟨Bracket.leaves_of_not_mem nofun, nofun⟩

/-- A token that is taken keeps the count. -/
theorem takes {s t : ExpressionState} (h : OpensGroups ks s.groups)
    (ht : ExpressionState.Takes s k t) : OpensGroups (ks ++ [k]) t.groups := by
  have hk : k.isOfExpression = true := by
    cases ht with
    | negation | openGroup | closeGroup => rfl
    | literal groups hk => exact Kind.isOfExpression_of_part (.inl hk)
    | binary groups hk => exact Kind.isOfExpression_of_part (.inr hk)
  refine ⟨?_, fun l hl => ?_⟩
  · cases ht with
    | negation => exact h.parens.concat_other (by decide)
    | openGroup => exact h.parens.concat_opening
    | literal groups hk => exact h.parens.concat_other (Kind.ne_bracket (.inl hk) .paren)
    | binary groups hk => exact h.parens.concat_other (Kind.ne_bracket (.inr hk) .paren)
    | closeGroup => exact h.parens.concat_closing
  · rcases List.mem_append.1 hl with hl | hl
    · exact h.isOfExpression l hl
    · rwa [List.mem_singleton.1 hl]

lemma braces (h : OpensGroups ks groups) : Bracket.brace.Leaves ks 0 :=
  Bracket.leaves_of_not_mem fun k hk => Kind.ne_brace_of_isOfExpression (h.isOfExpression k hk)

end OpensGroups

/-- An expression that begins at an index is read up to another one, and goes on in a state. -/
inductive ReadsUpTo (tokens : List Token) (first : Nat) : Nat → ExpressionState → Prop
  | start : ReadsUpTo tokens first first .start
  | take {index : Nat} {s s' : ExpressionState} {t : Token} (h : ReadsUpTo tokens first index s)
    (ht : tokens[index]? = some t) (hmove : s.move t.kind = .take s') :
    ReadsUpTo tokens first (index + 1) s'

namespace ReadsUpTo

variable {s : ExpressionState}

/-- What is read of an expression is read on from every place in it. -/
lemma readExpression_eq (h : ReadsUpTo tokens first index s) :
    readExpression ((tokens.drop first).map Token.kind) =
      s.read ((tokens.drop index).map Token.kind) := by
  induction h with
  | start => rfl
  | take h ht hmove ih => rw [ih, map_drop_eq_cons ht, ExpressionState.read, hmove]

/-- An expression that is read comes to its end. -/
lemma exists_end (h : ReadsUpTo tokens first index s)
    (hread : s.read ((tokens.drop index).map Token.kind) = .ok rest) :
    ∃ q, rest = (tokens.drop q).map Token.kind ∧ ReadsUpTo tokens first q ⟨.operator, 0⟩ := by
  generalize hks : (tokens.drop index).map Token.kind = ks at hread
  fun_induction ExpressionState.read s ks generalizing index with
  | case1 s hmissing =>
    obtain ⟨awaiting, groups⟩ := s
    cases awaiting <;> cases groups <;> cases hmissing
    obtain rfl := Except.ok.inj hread
    exact ⟨index, hks.symm, h⟩
  | case2 => cases hread
  | case3 s k ks s' hmove ih =>
    obtain ⟨t, ts, hdrop, rfl, rfl⟩ := List.map_eq_cons_iff.1 hks
    have ht : tokens[index]? = some t := by
      rw [← List.head?_drop, hdrop, List.head?_cons]
    refine ih (h.take ht hmove) ?_ hread
    rw [← List.tail_drop, hdrop, List.tail_cons]
  | case4 s k ks hmove =>
    obtain rfl := ExpressionState.eq_of_move_finish hmove
    obtain rfl := Except.ok.inj hread
    exact ⟨index, hks.symm, h⟩
  | case5 => cases hread

lemma le (h : ReadsUpTo tokens first index s) : first ≤ index := by
  induction h with
  | start => exact Nat.le_refl _
  | take h ht hmove ih => omega

/-- The count of open parentheses is the one of the tokens that are read. -/
theorem opensGroups (h : ReadsUpTo tokens first index s) :
    OpensGroups ((tokens.extract first index).map Token.kind) s.groups := by
  induction h with
  | start =>
    rw [List.extract_eq_take_drop, Nat.sub_self, List.take_zero]
    exact .nil
  | take h ht hmove ih =>
    rw [extract_succ h.le ht, List.map_append]
    exact ih.takes (.of_move hmove)

end ReadsUpTo

/-- An expression closes all its parentheses. -/
lemma opensGroups_tokens (e : Expression) : OpensGroups (e.tokens.map Token.kind) 0 := by
  have hread := readExpression_tokens e endsExpression_nil
  rw [List.append_nil, readExpression] at hread
  have hstart : ReadsUpTo e.tokens 0 0 .start := .start
  obtain ⟨q, hq, hend⟩ := hstart.exists_end hread
  have hle : e.tokens.length ≤ q := List.drop_eq_nil_iff.1 (List.map_eq_nil_iff.1 hq.symm)
  have hgroups := hend.opensGroups
  rwa [List.extract_eq_take_drop, List.drop_zero, Nat.sub_zero, List.take_of_length_le hle]
    at hgroups

/-! ### Between statements -/

/-- The tokens up to a boundary where so many blocks are open. -/
structure OpensBlocks (ks : List Kind) (blocks : Nat) : Prop where
  braces : Bracket.brace.Leaves ks blocks
  parens : Bracket.paren.Leaves ks 0

namespace OpensBlocks

lemma nil : OpensBlocks [] 0 := ⟨Bracket.leaves_of_not_mem nofun, Bracket.leaves_of_not_mem nofun⟩

lemma closeBlock (h : OpensBlocks ks (blocks + 1)) : OpensBlocks (ks ++ [.rightBrace]) blocks :=
  ⟨h.braces.concat_closing, h.parens.concat_other (by decide)⟩

lemma expression (h : OpensBlocks ks blocks) (e : Expression) :
    OpensBlocks (ks ++ e.tokens.map Token.kind) blocks :=
  ⟨h.braces.append (opensGroups_tokens e).braces, h.parens.append (opensGroups_tokens e).parens⟩

/-- The parentheses around a condition are closed before the brace of its block is opened. -/
lemma header (h : OpensBlocks ks blocks) (header : Header) :
    OpensBlocks (ks ++ header.tokens.map Token.kind) (blocks + 1) := by
  have hkinds : ks ++ header.tokens.map Token.kind =
      ks ++ [.whileWord] ++ [.leftParen] ++ header.condition.tokens.map Token.kind ++
        [.rightParen] ++ [.leftBrace] := by
    simp [Header.tokens, header.keyword.2, header.openCondition.2, header.closeCondition.2,
      header.openBlock.2]
  have hcondition := opensGroups_tokens header.condition
  rw [hkinds]
  constructor
  · have hopen : Bracket.brace.Leaves (ks ++ [.whileWord] ++ [.leftParen]) blocks :=
      (h.braces.concat_other (by decide)).concat_other (by decide)
    exact ((hopen.append hcondition.braces).concat_other (by decide)).concat_opening
  · have hopen : Bracket.paren.Leaves (ks ++ [.whileWord] ++ [.leftParen]) 1 :=
      (h.parens.concat_other (by decide)).concat_opening
    exact ((hopen.append hcondition.parens).concat_closing).concat_other (by decide)

/-- A round of the loop over statements keeps both counts. -/
theorem moves {s t : ProgramState} (h : OpensBlocks ks s.blocks) (ht : ProgramState.Moves s t) :
    ∃ read, s.rest = read ++ t.rest ∧ OpensBlocks (ks ++ read) t.blocks := by
  cases ht with
  | closeBlock => exact ⟨[.rightBrace], rfl, h.closeBlock⟩
  | loop statements blocks header rest => exact ⟨_, rfl, h.header header⟩
  | expression statements blocks e hrest => exact ⟨_, rfl, h.expression e⟩

end OpensBlocks

/-! ### Statements outside all blocks -/

/-- A statement outside all blocks begins at an index: the tokens before it are whole statements,
and the last of them does not go on there. -/
structure BeginsOutside (tokens : List Token) (index : Nat) : Prop where
  before : ∃ n, Derives ((tokens.take index).map Token.kind) n
  token : ∃ t ∈ tokens[index]?, t.kind.isBinary = false

lemma exists_derives_iff (ts : List Token) :
    (∃ n, Derives (ts.map Token.kind) n) ↔ (countStatements ts).isOk = true := by
  simp only [derives_iff]
  cases countStatements ts <;> simp [Except.isOk, Except.toBool]

instance (tokens : List Token) : DecidablePred (BeginsOutside tokens) := fun index =>
  decidable_of_iff
    ((countStatements (tokens.take index)).isOk = true ∧
      ∃ t ∈ tokens[index]?, t.kind.isBinary = false)
    ⟨fun ⟨hbefore, htoken⟩ => ⟨(exists_derives_iff _).2 hbefore, htoken⟩,
      fun h => ⟨(exists_derives_iff _).1 h.before, h.token⟩⟩

/-- The number of statements outside all blocks that begin before an index. -/
def begunOutside (tokens : List Token) (index : Nat) : Nat :=
  (List.range index).countP fun k => decide (BeginsOutside tokens k)

lemma begunOutside_succ (tokens : List Token) (i : Nat) :
    begunOutside tokens (i + 1) =
      begunOutside tokens i + if BeginsOutside tokens i then 1 else 0 := by
  rw [begunOutside, List.range_succ, List.countP_append, List.countP_singleton]
  simp only [decide_eq_true_eq]
  rfl

/-- Where no statement begins on the way, only the first place counts. -/
lemma begunOutside_of_between (hij : i < j)
    (h : ∀ k, i < k → k < j → ¬BeginsOutside tokens k) :
    begunOutside tokens j = begunOutside tokens i + if BeginsOutside tokens i then 1 else 0 := by
  induction j, hij using Nat.le_induction with
  | base => exact begunOutside_succ tokens i
  | succ j hij ih =>
    have hj : ¬BeginsOutside tokens j := h j hij (Nat.lt_succ_self j)
    rw [begunOutside_succ, if_neg hj, ih fun k hik hkj => h k hik (Nat.lt_succ_of_lt hkj)]
    rfl

namespace Passes

open ProgramState

variable {n b m c : Nat}

/-- Behind whole statements the loop stands outside all blocks, unless the last one goes on. -/
lemma of_derives (hi : i ≤ tokens.length) (h : Derives ((tokens.take i).map Token.kind) n)
    (hends : EndsExpression ((tokens.drop i).map Token.kind)) : Passes tokens i n 0 := by
  have hrun := countStatements_eq_ok_iff.1 ((derives_iff _ n).1 h)
  have hmoves := moves_append (moves_of_run hrun) (List.append_nil _).symm hends
  refine of_moves_drop hi ?_
  rw [map_take_append_drop tokens i]
  exact hmoves

/-- Where the loop stands outside all blocks, whole statements are read. -/
lemma derives (h : Passes tokens i n 0) : Derives ((tokens.take i).map Token.kind) n := by
  have hmoves := moves_append h.moves (map_take_append_drop tokens i) endsExpression_nil
  rw [List.append_nil] at hmoves
  rw [derives_iff, countStatements_eq_ok_iff]
  exact (run_of_moves hmoves).trans run_nil

/-- A boundary that is not the last one is one where a round begins. -/
lemma exists_round (hi : Passes tokens i n b) (hj : Passes tokens j m c) (hij : i < j) :
    ∃ s, Moves ⟨n, b, (tokens.drop i).map Token.kind⟩ s := by
  rcases (hi.moves_to hj hij.le).cases_head with heq | ⟨s, hfirst, -⟩
  · have hlength := congrArg (fun s => s.rest.length) heq
    have := hj.le_length
    simp only [List.length_map, List.length_drop] at hlength
    omega
  · exact ⟨s, hfirst⟩

/-- In front of a boundary, statements outside all blocks begin where the loop stands outside all
blocks. -/
lemma beginsOutside_iff (hj : Passes tokens j m c) (hij : i < j) :
    BeginsOutside tokens i ↔ ∃ n, Passes tokens i n 0 := by
  have hi : i < tokens.length := Nat.lt_of_lt_of_le hij hj.le_length
  constructor
  · rintro ⟨⟨n, hn⟩, t, ht, hbinary⟩
    refine ⟨n, of_derives hi.le hn ?_⟩
    rw [map_drop_eq_cons ht]
    exact endsExpression_cons.2 hbinary
  · rintro ⟨n, hpasses⟩
    obtain ⟨s, hround⟩ := hpasses.exists_round hj hij
    have hends := hround.endsExpression
    rw [map_drop_eq_cons (List.getElem?_eq_getElem hi)] at hends
    exact ⟨⟨n, hpasses.derives⟩, tokens[i], List.getElem?_eq_getElem hi,
      endsExpression_cons.1 hends⟩

/-- A round that begins outside all blocks begins one more statement there. -/
lemma begunOutside_of_round (hi : Passes tokens i n b) (hj : Passes tokens j m c)
    (h : Moves ⟨n, b, (tokens.drop i).map Token.kind⟩ ⟨m, c, (tokens.drop j).map Token.kind⟩) :
    begunOutside tokens j = begunOutside tokens i + if b = 0 then 1 else 0 := by
  have hlength := length_lt_of_step h.step
  simp only [List.length_map, List.length_drop] at hlength
  have hij : i < j := by omega
  have hbegins : BeginsOutside tokens i ↔ b = 0 := by
    rw [beginsOutside_iff hj hij]
    constructor
    · rintro ⟨n', hi'⟩
      exact (hi.unique hi').2
    · rintro rfl
      exact ⟨n, hi⟩
  have hbetween : ∀ k, i < k → k < j → ¬BeginsOutside tokens k := by
    intro k hik hkj hk
    obtain ⟨n', hk'⟩ := (beginsOutside_iff hj hkj).1 hk
    rcases le_or_le_of_round hi hj h hk' with hle | hle
    · exact absurd hle (Nat.not_le.2 hik)
    · exact absurd hle (Nat.not_le.2 hkj)
  rw [begunOutside_of_between hij hbetween, if_congr hbegins rfl rfl]

/-- The counts at a boundary are those of the tokens before it. -/
theorem counts (h : Passes tokens i n b) :
    OpensBlocks ((tokens.take i).map Token.kind) b ∧ n = begunOutside tokens i := by
  refine rounds (P := fun i n b => OpensBlocks ((tokens.take i).map Token.kind) b ∧
    n = begunOutside tokens i) ⟨.nil, rfl⟩ ?_ h
  rintro i j n b m c hi hj hmove ⟨hopens, hcount⟩
  constructor
  · obtain ⟨read, hread, hopens'⟩ := hopens.moves hmove
    have hsplit := (map_take_append_drop tokens j).symm.trans (map_take_append_drop tokens i)
    rw [show (tokens.drop i).map Token.kind = read ++ (tokens.drop j).map Token.kind from hread,
      ← List.append_assoc] at hsplit
    rwa [List.append_cancel_right hsplit]
  · rw [begunOutside_of_round hi hj hmove, ← hcount]
    exact hmove.statements_eq

end Passes

/-! ### Both counters -/

/-- A parenthesis is closed only if one is open. -/
lemma ExpressionState.Takes.groups_le {s t : ExpressionState} (h : Takes s k t) :
    if k = .rightParen then s.groups = t.groups + 1 else s.groups ≤ t.groups := by
  cases h with
  | negation groups => exact Nat.le_refl groups
  | openGroup groups => exact Nat.le_succ groups
  | literal groups hk =>
    have hclosing : k ≠ .rightParen := (Kind.ne_bracket (.inl hk) .paren).2
    rw [if_neg hclosing]
  | binary groups hk =>
    have hclosing : k ≠ .rightParen := (Kind.ne_bracket (.inr hk) .paren).2
    rw [if_neg hclosing]
  | closeGroup groups => exact rfl

/-- A block is closed only if one is open. -/
lemma ProgramState.Moves.blocks_le {s t : ProgramState} (h : Moves s t) :
    if s.rest.head? = some .rightBrace then s.blocks = t.blocks + 1 else s.blocks ≤ t.blocks := by
  cases h with
  | closeBlock statements blocks ks => exact rfl
  | loop statements blocks header ks =>
    have hhead : (header.tokens.map Token.kind ++ ks).head? = some .whileWord :=
      congrArg some header.keyword.2
    rw [hhead]
    exact Nat.le_succ blocks
  | expression statements blocks e hks =>
    obtain ⟨k, ls, hkinds, hk⟩ := exists_begin e _
    rw [hkinds, if_neg]
    rw [List.head?_cons, Option.some_inj]
    rintro rfl
    rcases hk with h | h | h <;> cases h

/-- At every boundary, the blocks that are counted are those that the tokens before it leave open,
all parentheses before it are closed, and the statements that are counted are those that begin
outside all blocks. At every place inside an expression, wherever that begins, the parentheses that
are counted are those that its tokens leave open, and no other tokens than those of expressions are
among them. A count goes down only at a closing bracket, and it is not zero there. -/
theorem openBrackets_counted (tokens : List Token) :
    (∀ index statements blocks, Passes tokens index statements blocks →
      OpensBlocks ((tokens.take index).map Token.kind) blocks ∧
        statements = begunOutside tokens index) ∧
    (∀ first index s, ReadsUpTo tokens first index s →
      readExpression ((tokens.drop first).map Token.kind) =
          s.read ((tokens.drop index).map Token.kind) ∧
        OpensGroups ((tokens.extract first index).map Token.kind) s.groups) ∧
    (∀ index statements blocks t, Passes tokens index statements blocks →
      (⟨statements, blocks, (tokens.drop index).map Token.kind⟩ : ProgramState).step = .next t →
      if tokens[index]?.map Token.kind = some .rightBrace then blocks = t.blocks + 1
      else blocks ≤ t.blocks) ∧
    ∀ first index s t s', ReadsUpTo tokens first index s → tokens[index]? = some t →
      s.move t.kind = .take s' →
      if t.kind = .rightParen then s.groups = s'.groups + 1 else s.groups ≤ s'.groups := by
  refine ⟨fun _ _ _ h => h.counts, fun _ _ _ h => ⟨h.readExpression_eq, h.opensGroups⟩, ?_, ?_⟩
  · intro index statements blocks t _ hstep
    have hblocks := (ProgramState.Moves.of_step hstep).blocks_le
    rwa [List.head?_map, List.head?_drop] at hblocks
  · intro first index s t s' _ _ hmove
    exact (ExpressionState.Takes.of_move hmove).groups_le

/-- Behind the head of a loop two statements are begun and its block is open. Inside its condition,
one parenthesis is open behind the name. -/
theorem openBrackets_counted_loop :
    let tokens := readTokens .anywhere unnamed "a while ((b)) \x7b c"
    Passes tokens 8 2 1 ∧ OpensBlocks ((tokens.take 8).map Token.kind) 1 ∧
      begunOutside tokens 8 = 2 ∧ ReadsUpTo tokens 3 5 ⟨.operator, 1⟩ ∧
      OpensGroups ((tokens.extract 3 5).map Token.kind) 1 := by
  intro tokens
  have ha : (ProgramState.start (tokens.map Token.kind)).step =
      .next ⟨1, 0, (tokens.drop 1).map Token.kind⟩ := by decide +kernel
  have hloop : (⟨1, 0, (tokens.drop 1).map Token.kind⟩ : ProgramState).step =
      .next ⟨2, 1, (tokens.drop 8).map Token.kind⟩ := by decide +kernel
  have hfirst : Passes tokens 1 1 0 := ⟨by decide +kernel, .single ha⟩
  have hboundary : Passes tokens 8 2 1 := ⟨by decide +kernel, hfirst.reached.tail hloop⟩
  have hopen : tokens[3]?.map Token.kind = some .leftParen := by decide +kernel
  have hb : tokens[4]?.map Token.kind = some .identifier := by decide +kernel
  obtain ⟨t, ht, htkind⟩ := Option.map_eq_some_iff.1 hopen
  obtain ⟨u, hu, hukind⟩ := Option.map_eq_some_iff.1 hb
  have hparen : ReadsUpTo tokens 3 4 ⟨.operand, 1⟩ := .take .start ht (by rw [htkind]; rfl)
  have hreads : ReadsUpTo tokens 3 5 ⟨.operator, 1⟩ := .take hparen hu (by rw [hukind]; rfl)
  obtain ⟨hboundaries, hinside, -⟩ := openBrackets_counted tokens
  obtain ⟨hblocks, hstatements⟩ := hboundaries 8 2 1 hboundary
  exact ⟨hboundary, hblocks, hstatements.symm, hreads, (hinside 3 5 _ hreads).2⟩

end BoolWhile
