import BoolWhile.Proofs.Recognition.Progress
import BoolWhile.Recognition.Cursor

/-!
# What a rejection reports

A place where kinds are rejected is reported on the list of tokens they come from. Where a token is
refused the report is about that token alone, and neither the tokens before it nor the ones behind
it change a word. Where the tokens end it is about what is missing there.
-/

namespace BoolWhile

variable {tokens xs ys : List Token} {t : Token} {s : Progress} {construct : Construct}

/-- Every list of kinds is that of some tokens. -/
lemma exists_map_kind (ks : List Kind) : ∃ ts : List Token, ts.map Token.kind = ks := by
  refine ⟨ks.map fun k => ⟨k, "", ⟨"", 0, 0, 0⟩⟩, ?_⟩
  rw [List.map_map]
  exact List.map_id ks

lemma countStatements_eq_ok_iff {n : Nat} :
    countStatements tokens = .ok n ↔ readProgram (tokens.map Token.kind) = .ok n := by
  rw [countStatements]
  cases readProgram (tokens.map Token.kind) with
  | ok m => simp
  | error place => simp

/-- A cursor with as many tokens behind it as a list stands before that list. -/
lemma Cursor.token?_before {rest : List Kind} (h : rest.length = ys.length) :
    (before (xs ++ ys) rest).token? = ys.head? := by
  have hindex : (xs ++ ys).length - rest.length = xs.length := by
    rw [h, List.length_append]
    omega
  rw [token?, before, hindex, List.getElem?_append_right (Nat.le_refl _), Nat.sub_self,
    List.head?_eq_getElem?]

/-- A refused token is what its error is about. -/
lemma Stuck.error_cons {place : Stuck} (h : place.unread.length = (t :: ys).length) :
    place.error (xs ++ t :: ys) =
      .unexpectedToken place.construct.description t place.construct.kind? := by
  rw [error, Cursor.missing, Cursor.token?_before h]
  rfl

lemma Stuck.error_nil :
    (⟨construct, []⟩ : Stuck).error tokens =
      .unexpectedEnd construct.description (endOfTokens tokens) construct.kind? := by
  have htoken : (Cursor.before tokens []).token? = none := by
    have hlength : ([] : List Kind).length = ([] : List Token).length := rfl
    rw [← List.append_nil tokens, Cursor.token?_before hlength, List.head?_nil]
  rw [error, Cursor.missing, htoken]
  rfl

/-- Either all tokens are read, or one of them is the first that is refused. -/
lemma reached_or_refused (tokens : List Token) :
    (∃ s, Progress.start.reach? (tokens.map Token.kind) = some s) ∨
      ∃ xs t ys s construct, tokens = xs ++ t :: ys ∧
        Progress.start.reach? (xs.map Token.kind) = some s ∧
        s.step t.kind = .error construct := by
  rcases Progress.start.exists_reach? (tokens.map Token.kind) with
    hs | ⟨xs, k, ys, s, construct, hsplit, hs, hk⟩
  · exact .inl hs
  · obtain ⟨ts, us, rfl, rfl, hus⟩ := List.map_eq_append_iff.1 hsplit
    obtain ⟨t, us, rfl, rfl, rfl⟩ := List.map_eq_cons_iff.1 hus
    exact .inr ⟨ts, t, us, s, construct, rfl, hs, hk⟩

/-- Tokens that are all read are a program, unless something is missing at their end. -/
theorem countStatements_of_reach? (h : Progress.start.reach? (tokens.map Token.kind) = some s) :
    countStatements tokens =
      match s.missing? with
      | none => .ok s.statements
      | some construct =>
        .error (.unexpectedEnd construct.description (endOfTokens tokens) construct.kind?) := by
  have hrun : Progress.start.run (tokens.map Token.kind) = s.run [] := by
    rw [← List.append_nil (tokens.map Token.kind)]
    exact Progress.run_append h
  rw [countStatements, Progress.readProgram_eq_run, hrun]
  cases hmissing : s.missing? with
  | none => rw [Progress.run_nil_none hmissing]
  | some construct =>
    rw [Progress.run_nil_some hmissing]
    exact congrArg _ Stuck.error_nil

/-- The first token that is refused decides, whatever stands behind it. -/
theorem countStatements_of_refused (h : Progress.start.reach? (xs.map Token.kind) = some s)
    (ht : s.step t.kind = .error construct) :
    countStatements (xs ++ t :: ys) =
      .error (.unexpectedToken construct.description t construct.kind?) := by
  rw [countStatements, Progress.readProgram_eq_run, List.map_append, Progress.run_append h,
    List.map_cons, Progress.run_error ht]
  refine congrArg _ (Stuck.error_cons ?_)
  simp

/-- An error is about a token of the list, or about the end of its last one. -/
lemma exists_of_countStatements_eq_error {e : SyntaxError}
    (h : countStatements tokens = .error e) :
    ∃ construct : Construct, ∃ t ∈ tokens,
      e = .unexpectedToken construct.description t construct.kind? ∨
        tokens.getLast? = some t ∧
          e = .unexpectedEnd construct.description (some t.endLocation) construct.kind? := by
  rcases reached_or_refused tokens with ⟨s, hs⟩ | ⟨xs, t, ys, s, construct, rfl, hs, ht⟩
  · rw [countStatements_of_reach? hs] at h
    cases hmissing : s.missing? with
    | none => simp [hmissing] at h
    | some construct =>
      simp only [hmissing, Except.error.injEq] at h
      -- Nothing is missing where no token is, so there is a last one.
      have hne : tokens ≠ [] := by
        rintro rfl
        obtain rfl := Option.some.inj hs
        simp [Progress.start, Progress.missing?, Progress.missingBetween] at hmissing
      have hlast := List.getLast?_eq_some_getLast hne
      refine ⟨construct, tokens.getLast hne, List.getLast_mem hne, .inr ⟨hlast, ?_⟩⟩
      rw [← h, endOfTokens, hlast]
      rfl
  · rw [countStatements_of_refused hs ht] at h
    exact ⟨construct, t, by simp, .inl (Except.error.inj h).symm⟩

end BoolWhile
