import BoolWhile.Proofs.Command.SingleFile
import BoolWhile.Proofs.Statistics.Sums
import BoolWhile.Proofs.Tokens.Gap

/-!
# What does not depend on places

The places of tokens are shown in reports, but nothing is decided by them. Tokens with the same
spellings are counted or rejected alike, add up to the same statistics, and are warned about in the
same words, so the record of a verdict without its tokens is the same (`Verdict.alike_of_spelling`).
In particular gaps may be put in everywhere between tokens (`Verdict.alike_insert_gap`).
-/

namespace BoolWhile

/-- Two outcomes that records do not tell apart. -/
inductive OutcomesAlike : Except SyntaxError Nat → Except SyntaxError Nat → Prop
  | program (n : Nat) : OutcomesAlike (.ok n) (.ok n)
  | rejection {e e' : SyntaxError} (h : e.Alike e') : OutcomesAlike (.error e) (.error e')

/-- Two verdicts that differ at most in the places of tokens. -/
structure Verdict.Alike (v w : Verdict) : Prop where
  spelling : v.tokens.map Token.spelling = w.tokens.map Token.spelling
  outcome : OutcomesAlike v.outcome w.outcome
  statistics : v.statistics = w.statistics
  warnings : (characterWarnings v.tokens).map Diagnostic.message =
    (characterWarnings w.tokens).map Diagnostic.message
  valid : v.isValid = w.isValid
  record : v.record false = w.record false

variable {tokens others : List Token} {t u : Token}

/-! ### Single tokens -/

lemma Token.spelling_inj : t.spelling = u.spelling ↔ t.kind = u.kind ∧ t.lexeme = u.lexeme := by
  rw [Token.spelling, Token.spelling, Prod.mk.injEq]

lemma forall₂_of_map_spelling (h : tokens.map Token.spelling = others.map Token.spelling) :
    List.Forall₂ (fun t u : Token => t.kind = u.kind ∧ t.lexeme = u.lexeme) tokens others := by
  rw [← List.forall₂_eq_eq_eq, List.forall₂_map_left_iff, List.forall₂_map_right_iff] at h
  exact h.imp fun _ _ => Token.spelling_inj.1

/-! ### Statistics and warnings -/

lemma Statistics.ofTokens_congr (h : tokens.map Token.spelling = others.map Token.spelling) :
    ofTokens tokens = ofTokens others := by
  have hpairs := forall₂_of_map_spelling h
  clear h
  induction hpairs with
  | nil => rfl
  | cons hfirst _ ih =>
    rw [ofTokens_cons, ofTokens_cons, ih, ofToken, ofToken, hfirst.1, hfirst.2]

/-- The message of a warning tells the character, but not where it is. -/
lemma message_unrecognized (lexeme : String) (location location' : Option Location) :
    (Diagnostic.unrecognized lexeme location).toOption.map Diagnostic.message =
      (Diagnostic.unrecognized lexeme location').toOption.map Diagnostic.message := by
  rw [Diagnostic.unrecognized, Diagnostic.unrecognized]
  cases Diagnostic.characterHelp lexeme <;> rfl

lemma map_message_characterWarnings (h : tokens.map Token.spelling = others.map Token.spelling) :
    (characterWarnings tokens).map Diagnostic.message =
      (characterWarnings others).map Diagnostic.message := by
  have hpairs := forall₂_of_map_spelling h
  clear h
  rw [characterWarnings, characterWarnings, List.map_filterMap, List.map_filterMap]
  induction hpairs with
  | nil => rfl
  | @cons t u _ _ hfirst _ ih =>
    rw [List.filterMap_cons, List.filterMap_cons, ih, hfirst.1, hfirst.2]
    split_ifs
    · rw [message_unrecognized u.lexeme t.location u.location]
    · rfl

/-! ### Outcomes -/

lemma SyntaxError.alike_unexpectedToken (expected : String) (kind? : Option Kind)
    (h : t.spelling = u.spelling) :
    (unexpectedToken expected t kind?).Alike (unexpectedToken expected u kind?) := by
  obtain ⟨hkind, hlexeme⟩ := Token.spelling_inj.1 h
  have hdescribe : t.describe = u.describe := by
    rw [Token.describe, Token.describe, hkind, hlexeme]
  refine ⟨rfl, ?_, rfl, congrArg some hlexeme⟩
  simp only [unexpectedToken, withMessage, hdescribe]

lemma SyntaxError.alike_unexpectedEnd (expected : String) (kind? : Option Kind)
    (location location' : Option Location) :
    (unexpectedEnd expected location kind?).Alike (unexpectedEnd expected location' kind?) :=
  ⟨rfl, rfl, rfl, rfl⟩

/-- A place where kinds are rejected is reported alike on tokens with the same spellings. -/
lemma Stuck.alike_error (place : Stuck)
    (h : tokens.map Token.spelling = others.map Token.spelling) :
    (place.error tokens).Alike (place.error others) := by
  have hlength := congrArg List.length h
  rw [List.length_map, List.length_map] at hlength
  have htoken := congrArg (·[tokens.length - place.unread.length]?) h
  simp only [List.getElem?_map] at htoken
  rw [error, error, Cursor.missing, Cursor.missing, Cursor.token?, Cursor.token?, Cursor.before,
    Cursor.before, ← hlength]
  dsimp only
  cases hfound : tokens[tokens.length - place.unread.length]? with
  | none =>
    rw [hfound, Option.map_none, eq_comm, Option.map_eq_none_iff] at htoken
    rw [htoken]
    exact SyntaxError.alike_unexpectedEnd _ _ _ _
  | some t =>
    rw [hfound, Option.map_some, eq_comm, Option.map_eq_some_iff] at htoken
    obtain ⟨u, hu, hspelling⟩ := htoken
    rw [hu]
    exact SyntaxError.alike_unexpectedToken _ _ hspelling.symm

lemma OutcomesAlike.isOk_eq {x y : Except SyntaxError Nat} (h : OutcomesAlike x y) :
    x.isOk = y.isOk := by
  cases h <;> rfl

theorem countStatements_alike (h : tokens.map Token.spelling = others.map Token.spelling) :
    OutcomesAlike (countStatements tokens) (countStatements others) := by
  have hkinds := congrArg (List.map Prod.fst) h
  rw [List.map_map, List.map_map] at hkinds
  have hread : readProgram (tokens.map Token.kind) = readProgram (others.map Token.kind) :=
    congrArg readProgram hkinds
  rw [countStatements, countStatements, ← hread]
  cases readProgram (tokens.map Token.kind) with
  | ok n => exact .program n
  | error place => exact .rejection (place.alike_error h)

/-! ### Verdicts -/

lemma Verdict.errorRecord_congr {e e' : SyntaxError} (h : e.Alike e') :
    errorRecord e = errorRecord e' := by
  rw [errorRecord, errorRecord, SyntaxError.codeMeaning?, SyntaxError.codeMeaning?, h.code,
    h.message, h.expected, h.lexeme]

lemma Verdict.outcomeFields_congr {v w : Verdict} (houtcome : OutcomesAlike v.outcome w.outcome)
    (hstatistics : v.statistics = w.statistics) : v.outcomeFields = w.outcomeFields := by
  rw [outcomeFields, outcomeFields, hstatistics]
  generalize v.outcome = x at houtcome ⊢
  generalize w.outcome = y at houtcome ⊢
  cases houtcome with
  | program n => rfl
  | rejection he => simp only [errorRecord_congr he]

/-- Texts with the same spellings have the same verdict, but for the places of their tokens. -/
theorem Verdict.alike_of_spelling {rule : KeywordRule} {filename source other : String}
    (h : (readTokens rule filename source).map Token.spelling =
      (readTokens rule filename other).map Token.spelling) :
    (ofText rule filename source).Alike (ofText rule filename other) := by
  have houtcome : OutcomesAlike (ofText rule filename source).outcome
      (ofText rule filename other).outcome := countStatements_alike h
  have hstatistics : (ofText rule filename source).statistics =
      (ofText rule filename other).statistics := Statistics.ofTokens_congr h
  refine ⟨h, houtcome, hstatistics, map_message_characterWarnings h, houtcome.isOk_eq, ?_⟩
  rw [record, record, outcomeFields_congr houtcome hstatistics]
  rfl

/-- Blanks may be put in wherever no token is cut, in any number: the verdict stays the same, but
for the places of tokens. -/
theorem Verdict.alike_insert_gap (rule : KeywordRule) (filename source gap : String) (k : Nat)
    (hgap : IsGap gap) (h : ∀ t ∈ readTokens rule filename source, ¬t.Spans k) :
    let wider := String.ofList (source.toList.take k) ++ gap ++ String.ofList (source.toList.drop k)
    (ofText rule filename wider).Alike (ofText rule filename source) :=
  alike_of_spelling (map_spelling_insert hgap h)

/-- A line end between two keywords that touch. -/
theorem Verdict.alike_insert_gap_keywords :
    IsGap "\r\n\t" ∧ (∀ t ∈ readTokens .anywhere unnamed "whiletrue<<1_", ¬t.Spans 5) ∧
      (ofText .anywhere unnamed "while\r\n\ttrue<<1_").Alike
        (ofText .anywhere unnamed "whiletrue<<1_") := by
  have hgap : IsGap "\r\n\t" := by decide
  have huncut : ∀ t ∈ readTokens .anywhere unnamed "whiletrue<<1_", ¬t.Spans 5 := by
    decide +kernel
  have hwider : String.ofList ("whiletrue<<1_".toList.take 5) ++ "\r\n\t" ++
      String.ofList ("whiletrue<<1_".toList.drop 5) = "while\r\n\ttrue<<1_" := by
    decide +kernel
  have halike := alike_insert_gap .anywhere unnamed "whiletrue<<1_" "\r\n\t" 5 hgap huncut
  dsimp only at halike
  rw [hwider] at halike
  exact ⟨hgap, huncut, halike⟩

end BoolWhile
