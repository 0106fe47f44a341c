import BoolWhile.Proofs.Recognition.FirstViolation
import BoolWhile.Token.Spelling

/-!
# Following the reports

A report names a kind of token. A token of that kind, put where the program is rejected, is read
there: the program is then rejected further on, or not at all (`Progress.step_remedy`). Where the
program ends too early, the kinds that are named one after the other are its completion
(`Progress.completion_eq`), so that whoever appends them has a program in the end. How many
they are is bounded by what is open, and that by the parentheses and braces of the program.
-/

namespace BoolWhile

/-! ### What reports name -/

/-- The kind of token that the words for a missing construct name: the one that stands between
apostrophes at their beginning, and a name where an expression is missing. -/
def namedKind (expected : String) : Kind :=
  match expected.toList with
  | '\'' :: cs =>
    ((Spellings.operators ++ Spellings.keywords).lookup
      (String.ofList (cs.takeWhile (· ≠ '\'')))).getD .identifier
  | _ => .identifier

/-- The kind of token that supplies a construct, or begins to. -/
def Construct.remedy (construct : Construct) : Kind := construct.kind?.getD .identifier

lemma namedKind_description (construct : Construct) :
    namedKind construct.description = construct.remedy := by
  cases construct <;> decide +kernel

/-- The index of the token at which a list is rejected, which is the length of the list if it ends
too early. -/
def rejectionIndex? (tokens : List Token) : Option Nat :=
  match readProgram (tokens.map Token.kind) with
  | .ok _ => none
  | .error place => some (Cursor.before tokens place.unread).index

/-! ### Reading what is named -/

namespace ExpressionState

variable {e : ExpressionState} {k : Kind} {construct : Construct}

lemma move_remedy (h : e.move k = .stuck construct) : ∃ e', e.move construct.remedy = .take e' := by
  obtain ⟨awaiting, groups⟩ := e
  cases awaiting with
  | operand =>
    have hconstruct : construct = .expression := by
      simp only [move] at h
      split_ifs at h
      exact (ExpressionMove.stuck.inj h).symm
    subst hconstruct
    exact ⟨_, rfl⟩
  | operator =>
    cases groups with
    | zero =>
      simp only [move] at h
      split_ifs at h
    | succ groups =>
      have hconstruct : construct = .closeGroup := by
        simp only [move] at h
        split_ifs at h
        exact (ExpressionMove.stuck.inj h).symm
      subst hconstruct
      exact ⟨_, rfl⟩

end ExpressionState

namespace Progress

variable {s t : Progress} {statements blocks : Nat} {k : Kind} {ks : List Kind}
  {construct : Construct}

lemma begin_error (h : begin statements blocks k = .error construct) :
    construct = .expression := by
  simp only [begin] at h
  split at h
  · cases h
  split at h
  · cases h
  cases hmove : ExpressionState.start.move k with
  | take e => simp [hmove] at h
  | finish => exact absurd hmove ExpressionState.move_start_ne_finish
  | stuck missing =>
    simp only [hmove, Except.error.injEq] at h
    subst h
    simp only [ExpressionState.start, ExpressionState.move] at hmove
    split_ifs at hmove
    exact (ExpressionMove.stuck.inj hmove).symm

lemma exists_begin_identifier (statements blocks : Nat) :
    ∃ t, begin statements blocks .identifier = .ok t :=
  ⟨_, by rw [begin, if_neg (by simp), if_neg (by simp)]; rfl⟩

/-- Where a token is refused, one of the kind that is missing there is read. -/
theorem step_remedy (h : s.step k = .error construct) : ∃ t, s.step construct.remedy = .ok t := by
  obtain ⟨statements, blocks, stage⟩ := s
  cases stage with
  | between =>
    obtain rfl := begin_error h
    exact exists_begin_identifier statements blocks
  | expression e =>
    cases hmove : e.move k with
    | take e' => simp [step, hmove] at h
    | finish =>
      -- The expression is at its end, so that what is missing belongs to the next statement.
      obtain rfl := ExpressionState.eq_of_move_finish hmove
      simp only [step, hmove] at h
      obtain rfl := begin_error h
      exact exists_begin_identifier statements blocks
    | stuck missing =>
      simp only [step, hmove, Except.error.injEq] at h
      subst h
      obtain ⟨e', he'⟩ := ExpressionState.move_remedy hmove
      exact ⟨⟨statements, blocks, .expression e'⟩, by simp only [step, he']⟩
  | openCondition =>
    obtain rfl := require_error h
    exact ⟨_, rfl⟩
  | condition e =>
    cases hmove : e.move k with
    | take e' => simp [step, hmove] at h
    | finish =>
      obtain rfl := ExpressionState.eq_of_move_finish hmove
      simp only [step, hmove] at h
      obtain rfl := require_error h
      exact ⟨_, rfl⟩
    | stuck missing =>
      simp only [step, hmove, Except.error.injEq] at h
      subst h
      obtain ⟨e', he'⟩ := ExpressionState.move_remedy hmove
      exact ⟨⟨statements, blocks, .condition e'⟩, by simp only [step, he']⟩
  | openBlock =>
    obtain rfl := require_error h
    exact ⟨_, rfl⟩

/-- Nothing is missing at the end of a program. Elsewhere a token of the kind that is missing is
read, and is the first one of the completion. -/
theorem completion_eq (s : Progress) :
    (s.missing? = none ∧ s.completion = []) ∨
      ∃ construct t, s.missing? = some construct ∧ s.step construct.remedy = .ok t ∧
        s.completion = construct.remedy :: t.completion := by
  obtain ⟨statements, blocks, stage⟩ := s
  match stage with
  | .between | .expression ⟨.operator, 0⟩ =>
    cases blocks with
    | zero => exact .inl ⟨rfl, rfl⟩
    | succ blocks => exact .inr ⟨.closeBlock, ⟨statements, blocks, .between⟩, rfl, rfl, rfl⟩
  | .expression ⟨.operand, _⟩ | .condition ⟨.operand, _⟩ =>
    exact .inr ⟨.expression, _, rfl, rfl, rfl⟩
  | .expression ⟨.operator, _ + 1⟩ | .condition ⟨.operator, _ + 1⟩ =>
    exact .inr ⟨.closeGroup, _, rfl, rfl, rfl⟩
  | .openCondition => exact .inr ⟨.openCondition, _, rfl, rfl, rfl⟩
  | .condition ⟨.operator, 0⟩ => exact .inr ⟨.closeCondition, _, rfl, rfl, rfl⟩
  | .openBlock => exact .inr ⟨.openBlock, _, rfl, rfl, rfl⟩

end Progress

/-! ### What is open -/

/-- The open parentheses of what is being read, without the one before a condition. -/
def Stage.groups : Stage → Nat
  | .expression e | .condition e => e.groups
  | .between | .openCondition | .openBlock => 0

/-- Only a parenthesis opens a group. -/
lemma ExpressionState.groups_le_of_move {e e' : ExpressionState} {k : Kind}
    (h : e.move k = .take e') : e'.groups ≤ e.groups + [k].count .leftParen := by
  cases Takes.of_move h with
  | negation groups => exact Nat.le_refl groups
  | openGroup groups => exact Nat.le_refl (groups + 1)
  | literal groups | binary groups => exact Nat.le_add_right groups _
  | closeGroup groups => exact Nat.le_succ groups

namespace Progress

variable {s t : Progress} {statements blocks : Nat} {k : Kind} {ks : List Kind}

/-- The number of open blocks and open parentheses. -/
def depth (s : Progress) : Nat := s.blocks + s.stage.groups

lemma depth_le_of_begin (h : begin statements blocks k = .ok t) :
    t.depth ≤ blocks + [k].count .leftParen := by
  simp only [begin] at h
  split at h
  · obtain rfl := Except.ok.inj h
    simp [depth, Stage.groups]
    omega
  split at h
  · obtain rfl := Except.ok.inj h
    simp [depth, Stage.groups]
  cases hmove : ExpressionState.start.move k with
  | take e =>
    simp only [hmove, Except.ok.injEq] at h
    subst h
    have hgroups := ExpressionState.groups_le_of_move hmove
    simp only [ExpressionState.start, depth, Stage.groups] at hgroups ⊢
    omega
  | finish => simp [hmove] at h
  | stuck missing => simp [hmove] at h

/-- A token opens at most one block or group, and only a parenthesis or a brace opens one. -/
lemma depth_le_of_step (h : s.step k = .ok t) :
    t.depth ≤ s.depth + ([k].count .leftParen + [k].count .leftBrace) := by
  obtain ⟨statements, blocks, stage⟩ := s
  cases stage with
  | between =>
    have hdepth := depth_le_of_begin h
    simp only [depth, Stage.groups] at hdepth ⊢
    omega
  | expression e =>
    cases hmove : e.move k with
    | take e' =>
      simp only [step, hmove, Except.ok.injEq] at h
      subst h
      have hgroups := ExpressionState.groups_le_of_move hmove
      simp only [depth, Stage.groups]
      omega
    | finish =>
      simp only [step, hmove] at h
      have hdepth := depth_le_of_begin h
      simp only [depth, Stage.groups] at hdepth ⊢
      omega
    | stuck missing => simp [step, hmove] at h
  | openCondition =>
    obtain ⟨-, rfl⟩ := require_ok h
    simp [depth, Stage.groups, ExpressionState.start]
  | condition e =>
    cases hmove : e.move k with
    | take e' =>
      simp only [step, hmove, Except.ok.injEq] at h
      subst h
      have hgroups := ExpressionState.groups_le_of_move hmove
      simp only [depth, Stage.groups]
      omega
    | finish =>
      simp only [step, hmove] at h
      obtain ⟨-, rfl⟩ := require_ok h
      simp only [depth, Stage.groups]
      omega
    | stuck missing => simp [step, hmove] at h
  | openBlock =>
    obtain ⟨hkind, rfl⟩ := require_ok h
    obtain rfl := Option.some.inj hkind
    simp [depth, Stage.groups]

/-- No more is open than is opened. -/
lemma depth_le_of_reach? (h : s.reach? ks = some t) :
    t.depth ≤ s.depth + (ks.count .leftParen + ks.count .leftBrace) := by
  induction ks generalizing s with
  | nil =>
    obtain rfl := Option.some.inj h
    exact Nat.le_add_right _ _
  | cons k ks ih =>
    obtain ⟨u, hstep, hu⟩ := exists_of_reach?_cons h
    have hfirst := depth_le_of_step hstep
    have hrest := ih hu
    rw [← List.singleton_append, List.count_append, List.count_append]
    omega

/-- Besides what closes all that is open, at most the five tokens of a loop are missing of which
only the keyword is read. -/
lemma length_completion_le (s : Progress) : s.completion.length ≤ 5 + s.depth := by
  obtain ⟨statements, blocks, stage⟩ := s
  have hexpression : ∀ e : ExpressionState, e.completion.length ≤ 1 + e.groups := by
    rintro ⟨awaiting, groups⟩
    cases awaiting <;>
      simp only [ExpressionState.completion, List.length_cons, List.length_replicate] <;> omega
  cases stage with
  | expression e | condition e =>
    have he := hexpression e
    simp only [completion, depth, Stage.groups, List.length_append, List.length_cons,
      List.length_replicate]
    omega
  | between | openCondition | openBlock =>
    simp only [completion, depth, Stage.groups, List.length_cons, List.length_replicate]
    omega

/-! ### Places of rejection -/

lemma reach?_concat (h : s.reach? ks = some t) {u : Progress} (hstep : t.step k = .ok u) :
    s.reach? (ks ++ [k]) = some u := by
  rw [reach?_append h, reach?_ok hstep]
  rfl

end Progress

section

variable {tokens xs ys : List Token} {t : Token} {s : Progress}

lemma rejectionIndex?_of_run (h : Progress.start.reach? (xs.map Token.kind) = some s)
    {place : Stuck} (hrun : s.run (ys.map Token.kind) = .error place) :
    rejectionIndex? (xs ++ ys) = some ((xs ++ ys).length - place.unread.length) := by
  rw [rejectionIndex?, Progress.readProgram_eq_run, List.map_append, Progress.run_append h, hrun]
  rfl

/-- Tokens that are read lie in front of the place where a list is rejected. -/
lemma accepted_or_length_le (h : Progress.start.reach? (xs.map Token.kind) = some s)
    (ys : List Token) :
    Accepted (xs ++ ys) ∨ ∃ k, rejectionIndex? (xs ++ ys) = some k ∧ xs.length ≤ k := by
  cases hrun : s.run (ys.map Token.kind) with
  | ok n =>
    refine .inl ⟨n, ?_⟩
    rw [countStatements, Progress.readProgram_eq_run, List.map_append, Progress.run_append h, hrun]
  | error place =>
    refine .inr ⟨_, rejectionIndex?_of_run h hrun, ?_⟩
    have hunread := (Progress.unread_suffix hrun).length_le
    rw [List.length_map] at hunread
    rw [List.length_append]
    omega

/-- The tokens before the place where a list is rejected are read, and so is a token of the kind
that is named there. -/
lemma exists_before_rejection {e : SyntaxError} (h : countStatements tokens = .error e) :
    ∃ xs ys, ∃ s : Progress, ∃ construct : Construct, ∃ next, tokens = xs ++ ys ∧
      Progress.start.reach? (xs.map Token.kind) = some s ∧ s.step construct.remedy = .ok next ∧
      rejectionIndex? tokens = some xs.length ∧ e.token = ys.head? ∧
      namedKind e.expected = construct.remedy := by
  rcases reached_or_refused tokens with ⟨s, hs⟩ | ⟨xs, t, ys, s, construct, rfl, hs, ht⟩
  · rw [countStatements_of_reach? hs] at h
    rcases s.completion_eq with ⟨hmissing, -⟩ | ⟨construct, next, hmissing, hnext, -⟩
    · simp [hmissing] at h
    · simp only [hmissing, Except.error.injEq] at h
      subst h
      have hindex : rejectionIndex? (tokens ++ []) = _ :=
        rejectionIndex?_of_run hs (Progress.run_nil_some hmissing)
      exact ⟨tokens, [], s, construct, next, (List.append_nil tokens).symm, hs, hnext,
        by simpa using hindex, rfl, namedKind_description construct⟩
  · rw [countStatements_of_refused hs ht] at h
    obtain rfl := Except.error.inj h
    obtain ⟨next, hnext⟩ := Progress.step_remedy ht
    have hindex : rejectionIndex? (xs ++ t :: ys) = _ :=
      rejectionIndex?_of_run hs (Progress.run_error ht)
    exact ⟨xs, t :: ys, s, construct, next, rfl, hs, hnext, by simpa using hindex, rfl,
      namedKind_description construct⟩

/-- All tokens are read of a list that is rejected at its end. -/
lemma exists_reach?_of_code {e : SyntaxError} (h : countStatements tokens = .error e)
    (hcode : e.diagnostic.code = some "P010") :
    ∃ s, Progress.start.reach? (tokens.map Token.kind) = some s := by
  rcases reached_or_refused tokens with hs | ⟨xs, t, ys, s, construct, rfl, hs, ht⟩
  · exact hs
  · rw [countStatements_of_refused hs ht] at h
    obtain rfl := Except.error.inj h
    simp [SyntaxError.unexpectedToken, SyntaxError.withMessage] at hcode

/-- What is named where a list is rejected is read there. -/
lemma repair_at (h : Progress.start.reach? (xs.map Token.kind) = some s) {next : Progress}
    (hnext : s.step t.kind = .ok next) (ys : List Token) :
    Accepted ((xs ++ ys).insertIdx xs.length t) ∨
      ∃ k, rejectionIndex? ((xs ++ ys).insertIdx xs.length t) = some k ∧ xs.length < k := by
  have hinsert : (xs ++ ys).insertIdx xs.length t = (xs ++ [t]) ++ ys := by
    rw [List.append_assoc]
    exact List.modifyTailIdx_add (List.cons t) 0 xs ys
  have hreach : Progress.start.reach? ((xs ++ [t]).map Token.kind) = some next := by
    rw [List.map_append]
    exact Progress.reach?_concat h hnext
  rw [hinsert]
  rcases accepted_or_length_le hreach ys with haccepted | ⟨k, hk, hle⟩
  · exact .inl haccepted
  · rw [List.length_append] at hle
    exact .inr ⟨k, hk, hle⟩

end

/-! ### Appending what is named -/

/-- Tokens appended one after the other, each of the kind that is named by the report on all
before it. -/
inductive Follows (tokens : List Token) : List Token → Prop
  | nil : Follows tokens []
  | concat {more : List Token} {e : SyntaxError} {t : Token} (h : Follows tokens more)
    (hrejected : countStatements (tokens ++ more) = .error e)
    (hkind : t.kind = namedKind e.expected) : Follows tokens (more ++ [t])

/-- Whoever appends what is named has a program after some number of tokens, and on the way to it
nothing but the end of the tokens is reported. -/
structure CompletedBy (tokens : List Token) (n : Nat) : Prop where
  endsEarly : ∀ more, Follows tokens more → more.length < n → ∃ e, EndsEarly (tokens ++ more) e
  accepted : ∀ more, Follows tokens more → more.length = n → Accepted (tokens ++ more)
  length_le : ∀ more, Follows tokens more → more.length ≤ n
  /-- There always is a token to append. -/
  exists_follows : ∃ more, Follows tokens more ∧ more.length = n

section

variable {tokens more : List Token} {s : Progress}

/-- Every token that is appended is read, and is one less to append. -/
lemma Follows.exists_reach? (h : Progress.start.reach? (tokens.map Token.kind) = some s)
    (hmore : Follows tokens more) :
    ∃ t, Progress.start.reach? ((tokens ++ more).map Token.kind) = some t ∧
      more.length + t.completion.length = s.completion.length := by
  induction hmore with
  | nil => exact ⟨s, by rwa [List.append_nil], Nat.zero_add _⟩
  | @concat more e t _ hrejected hkind ih =>
    obtain ⟨u, hu, hlength⟩ := ih
    rw [countStatements_of_reach? hu] at hrejected
    rcases u.completion_eq with ⟨hmissing, -⟩ | ⟨construct, next, hmissing, hnext, hcompletion⟩
    · simp [hmissing] at hrejected
    · simp only [hmissing, Except.error.injEq] at hrejected
      subst hrejected
      have hremedy : t.kind = construct.remedy := hkind.trans (namedKind_description construct)
      refine ⟨next, ?_, ?_⟩
      · rw [← List.append_assoc, List.map_append]
        refine Progress.reach?_concat hu ?_
        rwa [hremedy]
      · rw [hcompletion, List.length_cons] at hlength
        rw [List.length_append, List.length_singleton]
        omega

lemma completedBy_of_reach? (h : Progress.start.reach? (tokens.map Token.kind) = some s) :
    CompletedBy tokens s.completion.length := by
  have hearly : ∀ more, Follows tokens more → more.length < s.completion.length →
      ∃ e, EndsEarly (tokens ++ more) e := by
    intro more hmore hlt
    obtain ⟨t, ht, hlength⟩ := hmore.exists_reach? h
    rcases t.completion_eq with ⟨-, hcompletion⟩ | ⟨construct, -, hmissing, -, -⟩
    · rw [hcompletion, List.length_nil] at hlength
      omega
    · exact ⟨_, endsEarly_of_missing ht hmissing⟩
  have hfollows : ∀ n ≤ s.completion.length, ∃ more, Follows tokens more ∧ more.length = n := by
    intro n
    induction n with
    | zero => exact fun _ => ⟨[], .nil, rfl⟩
    | succ n ih =>
      intro hn
      obtain ⟨more, hmore, rfl⟩ := ih (Nat.le_of_succ_le hn)
      obtain ⟨e, he⟩ := hearly more hmore hn
      exact ⟨more ++ [⟨namedKind e.expected, "", ⟨"", 0, 0, 0⟩⟩], .concat hmore he.rejected rfl,
        List.length_append⟩
  refine ⟨hearly, ?_, ?_, hfollows _ (Nat.le_refl _)⟩
  · intro more hmore heq
    obtain ⟨t, ht, hlength⟩ := hmore.exists_reach? h
    rcases t.completion_eq with ⟨hmissing, -⟩ | ⟨construct, next, -, -, hcompletion⟩
    · have haccepted := countStatements_of_reach? ht
      rw [hmissing] at haccepted
      exact ⟨_, haccepted⟩
    · rw [hcompletion, List.length_cons] at hlength
      omega
  · intro more hmore
    obtain ⟨t, -, hlength⟩ := hmore.exists_reach? h
    omega

/-- A token of the kind that is named puts off the rejection, or leads to a program. Where a list
ends too early, following the reports completes it: at most five tokens are missing besides those
that close the parentheses and braces of the list. -/
theorem repairs_of_rejected (tokens : List Token) (e : SyntaxError)
    (h : countStatements tokens = .error e) :
    (∃ k ≤ tokens.length, rejectionIndex? tokens = some k ∧ e.token = tokens[k]? ∧
      ∀ t, t.kind = namedKind e.expected →
        Accepted (tokens.insertIdx k t) ∨
          ∃ k', rejectionIndex? (tokens.insertIdx k t) = some k' ∧ k < k') ∧
    (e.diagnostic.code = some "P010" →
      ∃ n ≤ 5 + ((tokens.map Token.kind).count .leftParen +
          (tokens.map Token.kind).count .leftBrace), CompletedBy tokens n) := by
  constructor
  · obtain ⟨xs, ys, s, construct, next, rfl, hs, hnext, hindex, htoken, hnamed⟩ :=
      exists_before_rejection h
    refine ⟨xs.length, ?_, hindex, ?_, ?_⟩
    · rw [List.length_append]
      exact Nat.le_add_right _ _
    · rw [htoken, List.getElem?_append_right (Nat.le_refl _), Nat.sub_self, List.head?_eq_getElem?]
    · intro t ht
      rw [← hnamed, ← ht] at hnext
      exact repair_at hs hnext ys
  · intro hcode
    obtain ⟨s, hs⟩ := exists_reach?_of_code h hcode
    refine ⟨s.completion.length, ?_, completedBy_of_reach? hs⟩
    calc
      s.completion.length ≤ 5 + s.depth := s.length_completion_le
      _ ≤ 5 + (Progress.start.depth + _) := Nat.add_le_add_left (Progress.depth_le_of_reach? hs) 5
      _ = 5 + _ := by rw [show Progress.start.depth = 0 from rfl, Nat.zero_add]

/-- Behind the keyword of a loop five tokens are missing. -/
theorem repairs_of_rejected_while :
    ∃ e, countStatements [⟨.whileWord, "while", ⟨"", 1, 1, 0⟩⟩] = .error e ∧
      e.diagnostic.code = some "P010" ∧
      ∃ n ≤ 5, CompletedBy [⟨.whileWord, "while", ⟨"", 1, 1, 0⟩⟩] n := by
  have h : countStatements [⟨.whileWord, "while", ⟨"", 1, 1, 0⟩⟩] = .error _ :=
    countStatements_of_reach? (s := ⟨1, 0, .openCondition⟩) rfl
  exact ⟨_, h, rfl, (repairs_of_rejected _ _ h).2 rfl⟩

end

end BoolWhile
