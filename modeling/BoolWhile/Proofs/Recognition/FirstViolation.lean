import BoolWhile.Proofs.Recognition.Report

/-!
# Where a list of tokens becomes hopeless

A list that is no program is rejected in one of two ways. It ends too early, and becomes a program
if more tokens are appended. Or one of its tokens is the first that no program has at its place:
the tokens before it begin a program, and no list that begins with the tokens up to it is one. The
report names that token, and already is the report on every such list.
-/

namespace BoolWhile

/-- A list of tokens is a program. -/
def Accepted (tokens : List Token) : Prop := ∃ n, countStatements tokens = .ok n

/-- A list of tokens is rejected at its end, but begins a program. -/
structure EndsEarly (tokens : List Token) (e : SyntaxError) : Prop where
  rejected : countStatements tokens = .error e
  code : e.diagnostic.code = some "P010"
  token : e.token = none
  more : ∃ more, more ≠ [] ∧ Accepted (tokens ++ more)

/-- The token at an index is the first one that no program has at its place. -/
structure BreaksAt (tokens : List Token) (k : Nat) (e : SyntaxError) : Prop where
  rejected : countStatements tokens = .error e
  code : e.diagnostic.code = some "P001"
  token : ∃ t, tokens[k]? = some t ∧ e.token = some t
  before : ∃ more, Accepted (tokens.take k ++ more)
  behind : ∀ more, countStatements (tokens.take (k + 1) ++ more) = .error e

variable {tokens xs ys : List Token} {t : Token} {s : Progress} {construct : Construct}

lemma not_accepted_of_rejected {e : SyntaxError} (h : countStatements tokens = .error e) :
    ¬Accepted tokens := by
  rintro ⟨n, hn⟩
  rw [h] at hn
  cases hn

/-- Tokens that are all read begin a program. -/
lemma exists_completion (h : Progress.start.reach? (tokens.map Token.kind) = some s) :
    ∃ more : List Token, more.map Token.kind = s.completion ∧ Accepted (tokens ++ more) := by
  obtain ⟨more, hmore⟩ := exists_map_kind s.completion
  refine ⟨more, hmore, s.statements, ?_⟩
  rw [countStatements_eq_ok_iff, Progress.readProgram_eq_run, List.map_append,
    Progress.run_append h, hmore]
  exact s.run_completion

lemma endsEarly_of_missing (h : Progress.start.reach? (tokens.map Token.kind) = some s)
    (hmissing : s.missing? = some construct) :
    EndsEarly tokens
      (.unexpectedEnd construct.description (endOfTokens tokens) construct.kind?) := by
  have hrejected := countStatements_of_reach? h
  rw [hmissing] at hrejected
  obtain ⟨more, hmore, haccepted⟩ := exists_completion h
  refine ⟨hrejected, rfl, rfl, more, ?_, haccepted⟩
  rintro rfl
  rw [List.append_nil] at haccepted
  exact not_accepted_of_rejected hrejected haccepted

/-- What is missing at the end of a list is what ends it early. -/
lemma endsEarly_of_stuck (h : readProgram (tokens.map Token.kind) = .error ⟨construct, []⟩) :
    ∃ e, EndsEarly tokens e ∧ e.expected = construct.description := by
  rw [Progress.readProgram_eq_run] at h
  rcases Progress.start.exists_reach? (tokens.map Token.kind) with
    ⟨s, hs⟩ | ⟨xs, k, ys, s, refused, hsplit, hs, hk⟩
  · have hrun : Progress.start.run (tokens.map Token.kind ++ []) = s.run [] :=
      Progress.run_append hs
    rw [List.append_nil, h] at hrun
    cases hmissing : s.missing? with
    | none =>
      rw [Progress.run_nil_none hmissing] at hrun
      cases hrun
    | some missing =>
      rw [Progress.run_nil_some hmissing] at hrun
      obtain rfl := congrArg Stuck.construct (Except.error.inj hrun)
      exact ⟨_, endsEarly_of_missing hs hmissing, rfl⟩
  · -- A token that is refused would be left unread.
    rw [hsplit, Progress.run_append hs, Progress.run_error hk] at h
    cases h

lemma breaksAt_of_refused (h : Progress.start.reach? (xs.map Token.kind) = some s)
    (ht : s.step t.kind = .error construct) :
    BreaksAt (xs ++ t :: ys) xs.length
      (.unexpectedToken construct.description t construct.kind?) where
  rejected := countStatements_of_refused h ht
  code := rfl
  token := ⟨t, by simp, rfl⟩
  before := by
    obtain ⟨more, -, haccepted⟩ := exists_completion h
    exact ⟨more, by simpa using haccepted⟩
  behind := fun more => by
    have htake : (xs ++ t :: ys).take (xs.length + 1) ++ more = xs ++ t :: more := by
      rw [List.take_length_add_append]
      simp
    rw [htake]
    exact countStatements_of_refused h ht

/-- Every list of tokens is a program, ends early or breaks at a token. -/
lemma accepted_or_rejected (tokens : List Token) :
    Accepted tokens ∨ (∃ e, EndsEarly tokens e) ∨ ∃ k e, BreaksAt tokens k e := by
  rcases reached_or_refused tokens with ⟨s, hs⟩ | ⟨xs, t, ys, s, construct, rfl, hs, ht⟩
  · cases hmissing : s.missing? with
    | none =>
      have haccepted := countStatements_of_reach? hs
      rw [hmissing] at haccepted
      exact .inl ⟨s.statements, haccepted⟩
    | some construct => exact .inr (.inl ⟨_, endsEarly_of_missing hs hmissing⟩)
  · exact .inr (.inr ⟨xs.length, _, breaksAt_of_refused hs ht⟩)

/-- Exactly one of the three holds of a list of tokens. -/
theorem accepted_xor_endsEarly_xor_breaksAt (tokens : List Token) :
    (Accepted tokens ∧ (¬∃ e, EndsEarly tokens e) ∧ ¬∃ k e, BreaksAt tokens k e) ∨
      (¬Accepted tokens ∧ (∃ e, EndsEarly tokens e) ∧ ¬∃ k e, BreaksAt tokens k e) ∨
      (¬Accepted tokens ∧ (¬∃ e, EndsEarly tokens e) ∧ ∃ k e, BreaksAt tokens k e) := by
  have haccepted_ends : Accepted tokens → ¬∃ e, EndsEarly tokens e := by
    rintro ha ⟨e, he⟩
    exact not_accepted_of_rejected he.rejected ha
  have haccepted_breaks : Accepted tokens → ¬∃ k e, BreaksAt tokens k e := by
    rintro ha ⟨k, e, he⟩
    exact not_accepted_of_rejected he.rejected ha
  have hends_breaks : (∃ e, EndsEarly tokens e) → ¬∃ k e, BreaksAt tokens k e := by
    rintro ⟨e, he⟩ ⟨k, e', he'⟩
    -- Both are the one error of the list, but their codes differ.
    have hsame := he.rejected.symm.trans he'.rejected
    obtain rfl := Except.error.inj hsame
    have := he.code.symm.trans he'.code
    simp at this
  rcases accepted_or_rejected tokens with h | h | h
  · exact .inl ⟨h, haccepted_ends h, haccepted_breaks h⟩
  · exact .inr (.inl ⟨fun ha => haccepted_ends ha h, h, hends_breaks h⟩)
  · exact .inr (.inr ⟨fun ha => haccepted_breaks ha h, fun he => hends_breaks he h, h⟩)

end BoolWhile
