import BoolWhile.Proofs.Recognition.FirstViolation

/-!
# Tokens that no program has

No rule of the grammar mentions the unknown characters and the reserved word. Nothing looks for
them by name: they are refused wherever they stand because every token that is taken belongs to a
rule. So a list with one of them breaks at the latest there (`exists_breaksAt_of_isForeign`).
-/

namespace BoolWhile

/-- The kinds that no rule of the grammar mentions. -/
def Kind.isForeign : Kind → Bool
  | unknown | ifWord => true
  | _ => false

variable {k : Kind} {ks : List Kind}

namespace Kind

lemma isForeign_iff : k.isForeign = true ↔ k = .unknown ∨ k = .ifWord := by
  cases k <;> decide

lemma isForeign_of_part (h : k.isLiteral = true ∨ k.isBinary = true) : k.isForeign = false := by
  cases k <;> simp_all [isLiteral, isBinary, isRelational, isForeign]

end Kind

/-- The token of a construct belongs to a rule. -/
lemma Construct.isForeign_of_kind? {construct : Construct} (h : construct.kind? = some k) :
    k.isForeign = false := by
  cases construct <;> simp [kind?] at h <;> subst h <;> rfl

/-- An expression takes operators, operands and parentheses only. -/
lemma ExpressionState.isForeign_of_move {e e' : ExpressionState} (h : e.move k = .take e') :
    k.isForeign = false := by
  cases Takes.of_move h with
  | negation | openGroup | closeGroup => rfl
  | literal groups hk => exact Kind.isForeign_of_part (.inl hk)
  | binary groups hk => exact Kind.isForeign_of_part (.inr hk)

namespace Progress

variable {s t : Progress} {statements blocks : Nat}

lemma isForeign_of_begin (h : begin statements blocks k = .ok t) : k.isForeign = false := by
  by_cases hclose : blocks ≠ 0 ∧ k = .rightBrace
  · rw [hclose.2]
    rfl
  by_cases hwhile : k = .whileWord
  · rw [hwhile]
    rfl
  cases hmove : ExpressionState.start.move k with
  | take e => exact ExpressionState.isForeign_of_move hmove
  | finish => simp [begin, hclose, hwhile, hmove] at h
  | stuck construct => simp [begin, hclose, hwhile, hmove] at h

/-- Every token that is taken belongs to a rule. -/
lemma isForeign_of_step (h : s.step k = .ok t) : k.isForeign = false := by
  obtain ⟨statements, blocks, stage⟩ := s
  cases stage with
  | between => exact isForeign_of_begin h
  | expression e =>
    cases hmove : e.move k with
    | take e' => exact ExpressionState.isForeign_of_move hmove
    | finish =>
      simp only [step, hmove] at h
      exact isForeign_of_begin h
    | stuck construct => simp [step, hmove] at h
  | openCondition => exact Construct.isForeign_of_kind? (require_ok h).1
  | condition e =>
    cases hmove : e.move k with
    | take e' => exact ExpressionState.isForeign_of_move hmove
    | finish =>
      simp only [step, hmove] at h
      exact Construct.isForeign_of_kind? (require_ok h).1
    | stuck construct => simp [step, hmove] at h
  | openBlock => exact Construct.isForeign_of_kind? (require_ok h).1

/-- So does every token that is read over. -/
theorem isForeign_of_reach? (h : s.reach? ks = some t) : ∀ k ∈ ks, k.isForeign = false := by
  induction ks generalizing s with
  | nil => simp
  | cons k ks ih =>
    obtain ⟨u, hstep, hu⟩ := exists_of_reach?_cons h
    intro l hl
    rcases List.mem_cons.1 hl with rfl | hl
    · exact isForeign_of_step hstep
    · exact ih hu l hl

end Progress

variable {tokens : List Token}

/-- A list with a token that no program has breaks there or before. -/
theorem exists_breaksAt_of_isForeign (h : ∃ t ∈ tokens, t.kind.isForeign = true) :
    ∃ k e, BreaksAt tokens k e ∧
      ∀ i t, tokens[i]? = some t → t.kind.isForeign = true → k ≤ i := by
  have hread : ∀ {ts : List Token} {s : Progress},
      Progress.start.reach? (ts.map Token.kind) = some s → ∀ t ∈ ts, t.kind.isForeign = false :=
    fun hs t ht => Progress.isForeign_of_reach? hs _ (List.mem_map_of_mem ht)
  rcases reached_or_refused tokens with ⟨s, hs⟩ | ⟨xs, t, ys, s, construct, rfl, hs, ht⟩
  · obtain ⟨t, ht, hforeign⟩ := h
    simp [hread hs t ht] at hforeign
  · refine ⟨xs.length, _, breaksAt_of_refused hs ht, ?_⟩
    intro i u hu hforeign
    by_contra hlt
    rw [Nat.not_le] at hlt
    rw [List.getElem?_append_left hlt] at hu
    simp [hread hs u (List.mem_of_getElem? hu)] at hforeign

/-- The tokens of a program belong to the rules. -/
lemma Accepted.isForeign (h : Accepted tokens) : ∀ t ∈ tokens, t.kind.isForeign = false := by
  intro t ht
  by_contra hforeign
  rw [Bool.not_eq_false] at hforeign
  obtain ⟨k, e, hbreaks, -⟩ := exists_breaksAt_of_isForeign ⟨t, ht, hforeign⟩
  exact not_accepted_of_rejected hbreaks.rejected h

end BoolWhile
