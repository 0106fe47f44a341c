import BoolWhile.Proofs.Recognition.FirstViolation
import BoolWhile.Proofs.Recognition.Shape

/-!
# Lists of one shape are recognized alike

Literals mean the same to every progress, and so do operators between operands. Lists of one shape
are still not read in step, since a run of `!` may be longer in one of them. But a `!` that is
taken leads to where one more is taken and changes nothing (`Progress.step_not_again`), so a run
leads to one progress however long it is, or its first `!` is refused.
-/

namespace BoolWhile

variable {ts us ns ms xs ys : List Token} {t u : Token} {i j : Nat}

/-! ### Tokens that mean the same -/

section

variable {k l : Kind}

lemma ExpressionState.move_eq (h : k.StandsFor l) (s : ExpressionState) : s.move k = s.move l := by
  obtain ⟨awaiting, groups⟩ := s
  cases awaiting with
  | operand =>
    simp only [move, h.eq_iff .logicalNot rfl rfl, h.eq_iff .leftParen rfl rfl, h.isLiteral_eq]
  | operator =>
    cases groups <;> simp only [move, h.eq_iff .rightParen rfl rfl, h.isBinary_eq]

/-- The token of a construct is neither a literal nor an operator between operands. -/
lemma Construct.kind?_eq_iff (h : k.StandsFor l) (construct : Construct) :
    construct.kind? = some k ↔ construct.kind? = some l := by
  have hsome : ∀ c : Kind, c.isLiteral = false → c.isBinary = false →
      (some c = some k ↔ some c = some l) := by
    intro c hliteral hbinary
    rw [eq_comm, Option.some_inj, h.eq_iff c hliteral hbinary, ← Option.some_inj, eq_comm]
  cases construct with
  | expression => exact iff_of_false nofun nofun
  | _ => exact hsome _ rfl rfl

namespace Progress

lemma begin_eq (h : k.StandsFor l) (statements blocks : Nat) :
    begin statements blocks k = begin statements blocks l := by
  simp only [begin, h.eq_iff .rightBrace rfl rfl, h.eq_iff .whileWord rfl rfl,
    ExpressionState.move_eq h]

lemma require_eq (h : k.StandsFor l) (construct : Construct) (next : Progress) :
    require construct next k = require construct next l := by
  simp only [require, construct.kind?_eq_iff h]

/-- A token means what another one means that may stand for it. -/
lemma step_eq (h : k.StandsFor l) (s : Progress) : s.step k = s.step l := by
  obtain ⟨statements, blocks, stage⟩ := s
  cases stage <;> simp only [step, begin_eq h, require_eq h, ExpressionState.move_eq h]

/-! ### Reading runs of `!` -/

variable {s t : Progress}

/-- A `!` that is taken leads to where an operand is looked for, so one more of them changes
nothing. -/
lemma step_not_again (h : s.step .logicalNot = .ok t) : t.step .logicalNot = .ok t := by
  have hbegin (statements blocks : Nat) : begin statements blocks .logicalNot =
      .ok ⟨if blocks = 0 then statements + 1 else statements, blocks, .expression .start⟩ := by
    simp [begin, ExpressionState.start, ExpressionState.move]
  obtain ⟨statements, blocks, stage⟩ := s
  cases stage with
  | between =>
    obtain rfl := Except.ok.inj ((hbegin statements blocks).symm.trans h)
    rfl
  | expression e =>
    obtain ⟨awaiting, groups⟩ := e
    cases awaiting with
    | operand =>
      obtain rfl := Except.ok.inj h
      rfl
    | operator =>
      cases groups with
      | zero =>
        obtain rfl := Except.ok.inj ((hbegin statements blocks).symm.trans h)
        rfl
      | succ groups => cases h
  | openCondition => cases h
  | condition e =>
    obtain ⟨awaiting, groups⟩ := e
    cases awaiting with
    | operand =>
      obtain rfl := Except.ok.inj h
      rfl
    | operator => cases groups <;> cases h
  | openBlock => cases h

lemma reach?_of_step_eq {ks : List Kind} (h : s.step k = .ok s) (hks : ∀ l ∈ ks, l = k) :
    s.reach? ks = some s := by
  induction ks with
  | nil => rfl
  | cons l ks ih =>
    obtain rfl := hks l List.mem_cons_self
    rw [reach?_ok h]
    exact ih fun m hm => hks m (List.mem_cons_of_mem l hm)

/-- A run of `!` leads where its first one leads, however long it is. -/
lemma reach?_negation (hns : IsNegation ns) (h : s.step .logicalNot = .ok t) :
    s.reach? (ns.map Token.kind) = some t := by
  obtain ⟨hne, hkind⟩ := hns
  cases ns with
  | nil => exact absurd rfl hne
  | cons n ns =>
    rw [List.map_cons, hkind n List.mem_cons_self, reach?_ok h]
    refine reach?_of_step_eq (step_not_again h) fun l hl => ?_
    obtain ⟨m, hm, rfl⟩ := List.mem_map.1 hl
    exact hkind m (List.mem_cons_of_mem n hm)

end Progress

end

/-! ### Reading lists of one shape -/

/-- Two lists are read alike behind what is read before them: to the same progress, or up to the
same place, where tokens are refused because the same construct is missing. -/
inductive ReadAlike (s : Progress) (xs ys : List Token) : Prop
  | reached {t : Progress} (hxs : s.reach? (xs.map Token.kind) = some t)
    (hys : s.reach? (ys.map Token.kind) = some t)
  | refused {i j : Nat} {x y : Token} {t : Progress} {construct : Construct}
    (hplace : SamePlace xs ys i j) (hx : xs[i]? = some x) (hy : ys[j]? = some y)
    (hxs : s.reach? ((xs.take i).map Token.kind) = some t)
    (hys : s.reach? ((ys.take j).map Token.kind) = some t)
    (hxstep : t.step x.kind = .error construct) (hystep : t.step y.kind = .error construct)

namespace ReadAlike

variable {s s' : Progress}

lemma token (hnot : t.kind ≠ .logicalNot) (hkind : t.kind.StandsFor u.kind)
    (hstep : s.step t.kind = .ok s') (h : ReadAlike s' ts us) :
    ReadAlike s (t :: ts) (u :: us) := by
  have hstep' : s.step u.kind = .ok s' := (Progress.step_eq hkind s).symm.trans hstep
  cases h with
  | @reached s'' hts hus =>
    refine .reached (t := s'') ?_ ?_
    · rwa [List.map_cons, Progress.reach?_ok hstep]
    · rwa [List.map_cons, Progress.reach?_ok hstep']
  | refused hplace hx hy hts hus hxstep hystep =>
    refine .refused (hplace.token hnot hkind) hx hy ?_ ?_ hxstep hystep
    · rwa [List.take_succ_cons, List.map_cons, Progress.reach?_ok hstep]
    · rwa [List.take_succ_cons, List.map_cons, Progress.reach?_ok hstep']

lemma negation (hns : IsNegation ns) (hms : IsNegation ms) (hts : EndsNegation ts)
    (hus : EndsNegation us) (hstep : s.step .logicalNot = .ok s') (h : ReadAlike s' ts us) :
    ReadAlike s (ns ++ ts) (ms ++ us) := by
  have hreach := Progress.reach?_negation hns hstep
  have hreach' := Progress.reach?_negation hms hstep
  cases h with
  | @reached s'' hxs hys =>
    refine .reached (t := s'') ?_ ?_
    · rwa [List.map_append, Progress.reach?_append hreach]
    · rwa [List.map_append, Progress.reach?_append hreach']
  | refused hplace hx hy hxs hys hxstep hystep =>
    refine .refused (hplace.negation hns hms hts hus) ?_ ?_ ?_ ?_ hxstep hystep
    · rwa [List.getElem?_append_right (Nat.le_add_right _ _), Nat.add_sub_cancel_left]
    · rwa [List.getElem?_append_right (Nat.le_add_right _ _), Nat.add_sub_cancel_left]
    · rwa [List.take_length_add_append, List.map_append, Progress.reach?_append hreach]
    · rwa [List.take_length_add_append, List.map_append, Progress.reach?_append hreach']

end ReadAlike

/-- Lists of one shape are read alike from every progress. -/
theorem SameShape.readAlike (h : SameShape xs ys) (s : Progress) : ReadAlike s xs ys := by
  induction h generalizing s with
  | nil => exact .reached rfl rfl
  | @token t u ts us hnot hkind hmore ih =>
    cases hstep : s.step t.kind with
    | ok s' => exact (ih s').token hnot hkind hstep
    | error construct =>
      have hstep' := (Progress.step_eq hkind s).symm.trans hstep
      exact .refused (.start (.token hnot hkind hmore)) rfl rfl rfl rfl hstep hstep'
  | @negation ns ms ts us hns hms hts hus hmore ih =>
    cases hstep : s.step .logicalNot with
    | ok s' => exact (ih s').negation hns hms hts hus hstep
    | error construct =>
      have hplace := SamePlace.start (.negation hns hms hts hus hmore)
      obtain ⟨n, ns, rfl⟩ := List.exists_cons_of_ne_nil hns.nonempty
      obtain ⟨m, ms, rfl⟩ := List.exists_cons_of_ne_nil hms.nonempty
      have hn : s.step n.kind = .error construct := by
        rw [hns.kind_eq n List.mem_cons_self, hstep]
      have hm : s.step m.kind = .error construct := by
        rw [hms.kind_eq m List.mem_cons_self, hstep]
      exact .refused hplace rfl rfl rfl rfl hn hm

/-- The token at an index is refused behind the tokens before it. -/
lemma breaksAt_of_refused_at {s : Progress} {construct : Construct} (hx : xs[i]? = some t)
    (h : Progress.start.reach? ((xs.take i).map Token.kind) = some s)
    (ht : s.step t.kind = .error construct) :
    BreaksAt xs i (.unexpectedToken construct.description t construct.kind?) := by
  obtain ⟨hi, rfl⟩ := List.getElem?_eq_some_iff.1 hx
  have hbreaks : BreaksAt (xs.take i ++ xs[i] :: xs.drop (i + 1)) (xs.take i).length
      (.unexpectedToken construct.description xs[i] construct.kind?) := breaksAt_of_refused h ht
  rwa [← List.drop_eq_getElem_cons hi, List.take_append_drop,
    List.length_take_of_le (Nat.le_of_lt hi)] at hbreaks

/-- Of two lists of one shape, both are programs with as many statements, or both are rejected with
one code where the same construct is missing: at their ends, or at tokens of the same place. -/
theorem countStatements_sameShape (xs ys : List Token) (h : SameShape xs ys) :
    (∃ n, countStatements xs = .ok n ∧ countStatements ys = .ok n) ∨
      ∃ e e', countStatements xs = .error e ∧ countStatements ys = .error e' ∧
        e.diagnostic.code = e'.diagnostic.code ∧ e.expected = e'.expected ∧
        (EndsEarly xs e ∧ EndsEarly ys e' ∨
          ∃ i j, BreaksAt xs i e ∧ BreaksAt ys j e' ∧ SamePlace xs ys i j) := by
  cases h.readAlike .start with
  | @reached s hxs hys =>
    cases hmissing : s.missing? with
    | none =>
      refine .inl ⟨s.statements, ?_, ?_⟩
      · rw [countStatements_of_reach? hxs, hmissing]
      · rw [countStatements_of_reach? hys, hmissing]
    | some construct =>
      have hxends := endsEarly_of_missing hxs hmissing
      have hyends := endsEarly_of_missing hys hmissing
      exact .inr ⟨_, _, hxends.rejected, hyends.rejected, rfl, rfl, .inl ⟨hxends, hyends⟩⟩
  | @refused i j x y t construct hplace hx hy hxs hys hxstep hystep =>
    have hxbreaks := breaksAt_of_refused_at hx hxs hxstep
    have hybreaks := breaksAt_of_refused_at hy hys hystep
    exact .inr ⟨_, _, hxbreaks.rejected, hybreaks.rejected, rfl, rfl,
      .inr ⟨i, j, hxbreaks, hybreaks, hplace⟩⟩

/-- Expressions with other operands, operators and runs of `!` are both rejected at the first `!`
behind an operand in parentheses. -/
theorem countStatements_sameShape_negations :
    let xs := readTokens .anywhere unnamed "(!!a < b ! c"
    let ys := readTokens .anywhere unnamed "( !x || 1 !!! true"
    SameShape xs ys ∧ ∃ e e', e.expected = e'.expected ∧ BreaksAt xs 6 e ∧ BreaksAt ys 5 e' ∧
      SamePlace xs ys 6 5 := by
  intro xs ys
  have hshape : SameShape xs ys := by decide +kernel
  have hxs : (match countStatements xs with | .ok _ => none | .error e => e.token) = xs[6]? := by
    decide +kernel
  have hys : (match countStatements ys with | .ok _ => none | .error e => e.token) = ys[5]? := by
    decide +kernel
  have hlengths : 6 < xs.length ∧ 5 < ys.length := by decide +kernel
  have hdistinct : xs.Nodup ∧ ys.Nodup := by decide +kernel
  refine ⟨hshape, ?_⟩
  rcases countStatements_sameShape xs ys hshape with ⟨n, hn, -⟩ |
    ⟨e, e', he, he', -, hexpected, ⟨hends, -⟩ | ⟨i, j, hi, hj, hplace⟩⟩
  · rw [hn] at hxs
    exact absurd hxs.symm (by simp [hlengths])
  · rw [he] at hxs
    exact absurd (hends.token.symm.trans hxs).symm (by simp [hlengths])
  · rw [he] at hxs
    rw [he'] at hys
    obtain ⟨t, ht, hxtoken⟩ := hi.token
    obtain ⟨u, hu, hytoken⟩ := hj.token
    have hi' : xs[6]? = xs[i]? := hxs.symm.trans (hxtoken.trans ht.symm)
    have hj' : ys[5]? = ys[j]? := hys.symm.trans (hytoken.trans hu.symm)
    obtain rfl := (List.getElem?_inj hlengths.1 hdistinct.1).1 hi'
    obtain rfl := (List.getElem?_inj hlengths.2 hdistinct.2).1 hj'
    exact ⟨e, e', hexpected, hi, hj, hplace⟩

end BoolWhile
