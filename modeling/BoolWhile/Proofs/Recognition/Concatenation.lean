import BoolWhile.Proofs.Recognition.Report
import Mathlib.Algebra.GroupWithZero.Nat
import Mathlib.Data.List.Forall2

/-!
# Programs one behind the other

Nothing stands between statements, so a program may go on behind its end with every token that does
not continue its last expression. What stands there is then read like a program of its own: the
statements before it are only counted with its own, and its errors are reported in the same words.
-/

namespace BoolWhile

/-! ### Reading on behind a program -/

namespace Progress

/-- The same progress with `n` more statements before it, outside all blocks. -/
def after (n : Nat) (s : Progress) : Progress := { s with statements := n + s.statements }

variable {s t : Progress} {n : Nat} {k : Kind} {ks : List Kind} {construct : Construct}

lemma begin_add (n statements blocks : Nat) (k : Kind) :
    begin (n + statements) blocks k = (begin statements blocks k).map (after n) := by
  unfold begin
  cases ExpressionState.start.move k <;> split_ifs <;> rfl

lemma require_after (n : Nat) (construct : Construct) (next : Progress) (k : Kind) :
    require construct (next.after n) k = (require construct next k).map (after n) := by
  unfold require
  split_ifs <;> rfl

/-- Statements before it change nothing in what a token means. -/
lemma step_after (n : Nat) (s : Progress) (k : Kind) :
    (s.after n).step k = (s.step k).map (after n) := by
  obtain ⟨statements, blocks, stage⟩ := s
  cases stage with
  | between => exact begin_add n statements blocks k
  | expression e =>
    simp only [step, after]
    cases e.move k with
    | take e' => rfl
    | finish => exact begin_add n statements blocks k
    | stuck construct => rfl
  | openCondition => exact require_after n .openCondition ⟨statements, blocks, .condition .start⟩ k
  | condition e =>
    simp only [step, after]
    cases e.move k with
    | take e' => rfl
    | finish => exact require_after n .closeCondition ⟨statements, blocks, .openBlock⟩ k
    | stuck construct => rfl
  | openBlock => exact require_after n .openBlock ⟨statements, blocks + 1, .between⟩ k

lemma missing?_after (n : Nat) (s : Progress) : (s.after n).missing? = s.missing? := rfl

/-- Statements before it are counted, and nothing else. -/
theorem run_after (n : Nat) (s : Progress) (ks : List Kind) :
    (s.after n).run ks = (s.run ks).map (n + ·) := by
  induction ks generalizing s with
  | nil =>
    cases hmissing : s.missing? with
    | none =>
      rw [run_nil_none hmissing, run_nil_none ((missing?_after n s).trans hmissing)]
      rfl
    | some construct =>
      rw [run_nil_some hmissing, run_nil_some ((missing?_after n s).trans hmissing)]
      rfl
  | cons k ks ih =>
    have hafter := step_after n s k
    cases hstep : s.step k with
    | ok t =>
      rw [hstep] at hafter
      rw [run_ok hstep, run_ok hafter, ih]
    | error construct =>
      rw [hstep] at hafter
      rw [run_error hstep, run_error hafter]
      rfl

/-- Where a program may end, a token that does not continue an expression begins the next
statement. -/
lemma step_of_missing?_eq_none (h : s.missing? = none) (hk : k.isBinary = false) :
    s.step k = (start.after s.statements).step k := by
  obtain ⟨statements, blocks, stage⟩ := s
  have hblocks : missingBetween blocks = none → blocks = 0 := by
    intro hmissing
    by_contra hne
    simp [missingBetween, hne] at hmissing
  cases stage with
  | between =>
    obtain rfl := hblocks h
    rfl
  | expression e =>
    obtain ⟨awaiting, groups⟩ := e
    cases awaiting with
    | operand => simp [missing?, ExpressionState.missing?] at h
    | operator =>
      cases groups with
      | zero =>
        obtain rfl := hblocks h
        simp [step, ExpressionState.move, hk, after, start]
      | succ groups => simp [missing?, ExpressionState.missing?] at h
  | openCondition => simp [missing?] at h
  | condition e => simp [missing?] at h
  | openBlock => simp [missing?] at h

/-- Reading on where a program may end is reading a program. -/
lemma run_of_missing?_eq_none (h : s.missing? = none) (hks : EndsExpression ks) :
    s.run ks = (start.run ks).map (s.statements + ·) := by
  rw [← run_after]
  cases ks with
  | nil =>
    rw [run_nil_none h, run_nil_none rfl]
    rfl
  | cons k ks =>
    rw [run, run, step_of_missing?_eq_none h (endsExpression_cons.1 hks)]

/-- What is read as a whole program leads to where a program may end. -/
lemma exists_reach?_of_run (h : s.run ks = .ok n) :
    ∃ t, s.reach? ks = some t ∧ t.missing? = none ∧ t.statements = n := by
  induction ks generalizing s with
  | nil =>
    cases hmissing : s.missing? with
    | none =>
      rw [run_nil_none hmissing] at h
      exact ⟨s, rfl, hmissing, Except.ok.inj h⟩
    | some construct => simp [run_nil_some hmissing] at h
  | cons k ks ih =>
    cases hstep : s.step k with
    | ok t =>
      rw [run_ok hstep] at h
      rw [reach?_ok hstep]
      exact ih h
    | error construct => simp [run_error hstep] at h

end Progress

/-- Behind a program, what does not continue its last expression is read like a program. -/
theorem readProgram_append {xs ys : List Kind} {n : Nat} (h : readProgram xs = .ok n)
    (hys : EndsExpression ys) : readProgram (xs ++ ys) = (readProgram ys).map (n + ·) := by
  rw [Progress.readProgram_eq_run] at h
  obtain ⟨s, hs, hmissing, rfl⟩ := Progress.exists_reach?_of_run h
  rw [Progress.readProgram_eq_run, Progress.readProgram_eq_run, Progress.run_append hs,
    Progress.run_of_missing?_eq_none hmissing hys]

/-! ### Reports -/

variable {xs ys : List Token} {n : Nat}

/-- A place in the last tokens is reported without the tokens before them. -/
lemma Stuck.error_append {place : Stuck} (h : place.unread <:+ ys.map Token.kind)
    (hne : ys ≠ []) : place.error (xs ++ ys) = place.error ys := by
  obtain ⟨before, hbefore⟩ := h
  obtain ⟨read, unread, rfl, rfl, hunread⟩ := List.map_eq_append_iff.1 hbefore.symm
  cases unread with
  | nil =>
    obtain ⟨construct, kinds⟩ := place
    obtain rfl : [] = kinds := hunread
    have hend : endOfTokens (xs ++ (read ++ [])) = endOfTokens (read ++ []) := by
      rw [endOfTokens, endOfTokens, List.getLast?_append_of_ne_nil _ hne]
    rw [error_nil, error_nil, hend]
  | cons t unread =>
    have hlength : place.unread.length = (t :: unread).length := by
      rw [← hunread, List.length_map]
    rw [← List.append_assoc, error_cons hlength, error_cons hlength]

/-- Behind a program, what does not continue its last expression is counted or rejected like a
program. -/
lemma countStatements_append_of_endsExpression (h : countStatements xs = .ok n)
    (hys : EndsExpression (ys.map Token.kind)) :
    countStatements (xs ++ ys) = (countStatements ys).map (n + ·) := by
  have hread := countStatements_eq_ok_iff.1 h
  rw [countStatements, countStatements, List.map_append, readProgram_append hread hys]
  cases hplace : readProgram (ys.map Token.kind) with
  | ok m => rfl
  | error place =>
    rw [Progress.readProgram_eq_run] at hplace
    have hne : ys ≠ [] := by
      rintro rfl
      simp [Progress.run_nil_none (s := Progress.start) rfl] at hplace
    exact congrArg Except.error (Stuck.error_append (Progress.unread_suffix hplace) hne)

/-- A program does not begin with an operator between operands. -/
lemma endsExpression_of_countStatements (h : countStatements ys = .ok n) :
    EndsExpression (ys.map Token.kind) :=
  ProgramState.endsExpression_of_run (countStatements_eq_ok_iff.1 h)

/-- A program and the tokens behind it are counted together, unless these continue its last
expression, and their errors are those of the tokens behind it alone. So programs one behind the
other are a program, with all their statements. -/
theorem countStatements_append :
    (∀ (xs ys : List Token) (n : Nat), countStatements xs = .ok n →
        (∀ t ∈ ys.head?, t.kind.isBinary = false) →
        (∀ m, countStatements ys = .ok m → countStatements (xs ++ ys) = .ok (n + m)) ∧
          ∀ e, countStatements ys = .error e → countStatements (xs ++ ys) = .error e) ∧
      ∀ (programs : List (List Token)) (counts : List Nat),
        List.Forall₂ (fun program n => countStatements program = .ok n) programs counts →
          countStatements programs.flatten = .ok counts.sum := by
  constructor
  · intro xs ys n hxs hys
    have hends : EndsExpression (ys.map Token.kind) := by
      cases ys with
      | nil => exact endsExpression_nil
      | cons t ys => exact endsExpression_cons.2 (hys t rfl)
    have happend := countStatements_append_of_endsExpression hxs hends
    constructor
    · intro m hm
      rw [happend, hm]
      rfl
    · intro e he
      rw [happend, he]
      rfl
  · intro programs counts h
    induction h with
    | nil => simp [countStatements, readProgram, ProgramState.start]
    | cons hfirst _ ih =>
      rw [List.flatten_cons, List.sum_cons,
        countStatements_append_of_endsExpression hfirst (endsExpression_of_countStatements ih), ih]
      rfl

/-- A loop without its closing parenthesis behind an expression, and two programs of which the
first ends with a loop. -/
theorem countStatements_append_openCondition :
    let xs := readTokens .anywhere unnamed "a < b"
    let ys := readTokens .anywhere unnamed "while (c"
    let zs := readTokens .anywhere unnamed "while (c) { d e }"
    (countStatements xs = .ok 1 ∧ (∀ t ∈ ys.head?, t.kind.isBinary = false) ∧
        ∃ e, countStatements ys = .error e ∧ countStatements (xs ++ ys) = .error e) ∧
      List.Forall₂ (fun program n => countStatements program = .ok n) [zs, xs] [1, 1] ∧
        countStatements [zs, xs].flatten = .ok 2 := by
  intro xs ys zs
  have hxs : countStatements xs = .ok 1 := by decide +kernel
  have hys : ∀ t ∈ ys.head?, t.kind.isBinary = false := by decide +kernel
  have hzs : countStatements zs = .ok 1 := by decide +kernel
  have hrejected : (countStatements ys).isOk = false := by decide +kernel
  have hprograms : List.Forall₂ (fun program n => countStatements program = .ok n) [zs, xs]
      [1, 1] := .cons hzs (.cons hxs .nil)
  cases he : countStatements ys with
  | ok m => simp [he, Except.isOk, Except.toBool] at hrejected
  | error e =>
    exact ⟨⟨hxs, hys, e, rfl, (countStatements_append.1 xs ys 1 hxs hys).2 e he⟩,
      hprograms, countStatements_append.2 _ _ hprograms⟩

end BoolWhile
