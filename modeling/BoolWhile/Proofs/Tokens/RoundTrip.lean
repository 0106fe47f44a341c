import BoolWhile.Proofs.Tokens.Locality

/-!
# Spellings are read back

Each kind of token has its spellings, which depend on the keyword rule only for names. The tokens
of a text are spelled so, and spellings that are written with blanks between them are read back
(`readTokens_roundTrip`).
-/

namespace BoolWhile

/-- A character that begins no word, number, operator or run of blanks by itself. -/
def Text.isStray (c : Char) : Bool :=
  !(isLetter c || isDigit c || isBlank c || ['<', '>', '!', '(', ')', '{', '}'].contains c)

/-- The words that are names under a keyword rule. -/
def KeywordRule.Frees : KeywordRule → List Char → Prop
  | anywhere, word => ∀ entry ∈ Spellings.keywords, ¬entry.1.toList <+: word
  | wholeWord, word => ∀ entry ∈ Spellings.keywords, entry.1.toList ≠ word

instance (rule : KeywordRule) (word : List Char) : Decidable (rule.Frees word) :=
  match rule with
  | .anywhere =>
    inferInstanceAs (Decidable (∀ entry ∈ Spellings.keywords, ¬entry.1.toList <+: word))
  | .wholeWord =>
    inferInstanceAs (Decidable (∀ entry ∈ Spellings.keywords, entry.1.toList ≠ word))

/-- The spellings of each kind of token. -/
inductive Kind.Spells (rule : KeywordRule) : Kind → List Char → Prop
  | sign {word : String} {kind : Kind} (h : (word, kind) ∈ Spellings.operators) :
    kind.Spells rule word.toList
  | keyword {word : String} {kind : Kind} (h : (word, kind) ∈ Spellings.keywords) :
    kind.Spells rule word.toList
  | number {cs : List Char} (h : Text.IsNumber cs) : Kind.number.Spells rule cs
  | name {cs : List Char} (h : Text.IsWord cs) (hfree : rule.Frees cs) :
    Kind.identifier.Spells rule cs
  | unknown {c : Char} (h : Text.isStray c = true) : Kind.unknown.Spells rule [c]

lemma KeywordRule.Frees.ne {rule : KeywordRule} {word : List Char} (h : rule.Frees word) :
    ∀ entry ∈ Spellings.keywords, entry.1.toList ≠ word := by
  cases rule with
  | anywhere =>
    rintro entry hmem rfl
    exact h entry hmem (List.prefix_refl _)
  | wholeWord => exact h

variable {rule : KeywordRule} {filename : String} {p : Position} {kind : Kind}
  {text cs rest : List Char} {piece : Piece}

lemma Kind.Spells.of_identifier (h : Kind.identifier.Spells rule cs) :
    Text.IsWord cs ∧ rule.Frees cs := by
  have hall : ∀ entry ∈ Spellings.operators ++ Spellings.keywords, entry.2 ≠ .identifier := by
    decide
  cases h with
  | sign hmem => exact absurd rfl (hall _ (List.mem_append_left _ hmem))
  | keyword hmem => exact absurd rfl (hall _ (List.mem_append_right _ hmem))
  | name hword hfree => exact ⟨hword, hfree⟩

lemma Kind.Spells.of_number (h : Kind.number.Spells rule cs) : Text.IsNumber cs := by
  have hall : ∀ entry ∈ Spellings.operators ++ Spellings.keywords, entry.2 ≠ .number := by
    decide
  cases h with
  | sign hmem => exact absurd rfl (hall _ (List.mem_append_left _ hmem))
  | keyword hmem => exact absurd rfl (hall _ (List.mem_append_right _ hmem))
  | number hnumber => exact hnumber

/-! ### Tokens are spelled -/

/-- A character is stray if and only if it is no lexeme. -/
lemma isStray_iff {c : Char} :
    Text.isStray c = true ↔ ∀ piece : Piece, piece.IsLexeme → piece.text ≠ [c] := by
  constructor
  · intro h piece hpiece htext
    simp only [Text.isStray, Bool.not_eq_true', Bool.or_eq_false_iff] at h
    obtain ⟨⟨⟨hletter, hdigit⟩, hblank⟩, hsign⟩ := h
    obtain ⟨entry, hmem, rfl⟩ := hpiece.of_isSign htext hletter hdigit hblank
    have hall : ∀ entry ∈ Spellings.operators, entry.1.toList.length = 1 →
        entry.1.toList.head?.all ['<', '>', '!', '(', ')', '{', '}'].contains = true := by
      decide
    have hcontains := hall entry hmem
    simp_all
  · intro h
    by_contra hstray
    simp only [Text.isStray, Bool.not_eq_true', Bool.not_eq_false, Bool.or_eq_true] at hstray
    rcases hstray with ((hletter | hdigit) | hblank) | hsign
    · have hrun : Text.IsWord [c] := by simp [hletter]
      obtain ⟨kind, hword⟩ := Piece.exists_isLexeme_of_isWord hrun
      exact h _ hword rfl
    · exact h _ (.number (by simp [hdigit])) rfl
    · exact h _ (.blanks (by simp [hblank])) rfl
    · have hall : ['<', '>', '!', '(', ')', '{', '}'].all (fun d =>
          Spellings.operators.any fun entry => entry.1.toList == [d]) = true := by
        decide
      have hany := List.all_eq_true.1 hall c (List.contains_iff_mem.1 hsign)
      obtain ⟨entry, hmem, htext⟩ := List.any_eq_true.1 hany
      exact h _ (.sign hmem) (beq_iff_eq.1 htext)

/-- What is taken is spelled as a token of its kind. -/
lemma Piece.IsTaken.spells (h : Piece.IsTaken rule text piece) (hkind : piece.kind? = some kind) :
    kind.Spells rule piece.text := by
  cases h with
  | longest h hwhole =>
    have hlexeme := h.isLexeme
    cases hlexeme with
    | sign hmem =>
      obtain rfl := Option.some.inj hkind
      exact .sign hmem
    | keyword hmem =>
      obtain rfl := Option.some.inj hkind
      exact .keyword hmem
    | name hword hplain =>
      obtain rfl := Option.some.inj hkind
      refine .name hword ?_
      cases rule with
      | anywhere => exact hwhole rfl
      | wholeWord => exact hplain
    | number hnumber =>
      obtain rfl := Option.some.inj hkind
      exact .number hnumber
    | blanks _ => cases hkind
  | keyword _ _ hmem _ =>
    obtain rfl := Option.some.inj hkind
    exact .keyword hmem
  | @unknown c cs htext h =>
    obtain rfl := Option.some.inj hkind
    subst htext
    exact .unknown (isStray_iff.2 fun other hother => hother.ne_singleton h)

theorem spells_of_mem_tokensFrom {t : Token} (h : t ∈ tokensFrom rule filename p cs) :
    t.kind.Spells rule t.lexeme.toList := by
  obtain ⟨text, htaken⟩ := exists_isTaken_of_mem h
  exact htaken.spells rfl

/-! ### Spellings are taken -/

/-- A text begins with a blank, if with anything. -/
def Detached (rest : List Char) : Prop := ∀ c ∈ rest.head?, Text.isBlank c = true

/-- Lexemes do not reach over a blank. -/
lemma IsLexeme.prefix_of_detached {c : Char} {ds : List Char} (h : piece.IsLexeme)
    (hc : Text.isBlank c = false) (hrest : Detached rest)
    (hfront : piece.text <+: c :: ds ++ rest) : piece.text <+: c :: ds := by
  obtain ⟨es, htext⟩ := h.exists_text_eq_cons hfront
  have hsolid : ∀ d ∈ piece.text, (!Text.isBlank d) = true := by
    intro d hd
    simp [h.forall_isBlank htext hc d hd]
  apply Text.prefix_of_forall_mem hfront hsolid
  intro d hd
  simp [hrest d hd]

lemma isLongest_of_detached (h : Piece.IsLexeme ⟨some kind, cs⟩) (hrest : Detached rest) :
    Piece.IsLongest ⟨some kind, cs⟩ (cs ++ rest) := by
  obtain ⟨c, ds, rfl⟩ := List.exists_cons_of_ne_nil h.ne_nil
  have hc : Text.isBlank c = false := by
    by_contra hc
    rw [Bool.not_eq_false] at hc
    cases (h.of_isBlank rfl hc).2
  refine ⟨h, List.prefix_append _ rest, ?_⟩
  intro other hother hfront
  exact (IsLexeme.prefix_of_detached hother hc hrest hfront).length_le

/-- A spelling is taken from the front of a text, if a blank or nothing stands behind it. -/
theorem Kind.Spells.isTaken (h : kind.Spells rule cs) (hrest : Detached rest) :
    Piece.IsTaken rule (cs ++ rest) ⟨some kind, cs⟩ := by
  cases h with
  | sign hmem =>
    refine .longest (isLongest_of_detached (.sign hmem) hrest) ?_
    intro _ entry hentry
    exact Piece.not_prefix_of_mem_operators hentry hmem
  | @keyword word _ hmem =>
    cases rule with
    | anywhere => exact Piece.isTaken_keyword hmem (List.prefix_append _ rest)
    | wholeWord =>
      exact .longest (isLongest_of_detached (.keyword hmem) hrest) (fun hrule => by cases hrule)
  | number hnumber =>
    refine .longest (isLongest_of_detached (.number hnumber) hrest) ?_
    intro _ entry hentry
    cases cs with
    | nil => exact hnumber.elim
    | cons c ds => exact Piece.not_prefix_of_isLetter (Piece.isLetter_of_isDigit hnumber.1) hentry
  | name hword hfree =>
    refine .longest (isLongest_of_detached (.name hword hfree.ne) hrest) ?_
    rintro rfl
    exact hfree
  | @unknown c hstray =>
    refine .unknown rfl ?_
    intro other hother hfront
    have hnone := isStray_iff.1 hstray
    have hc : Text.isBlank c = false := by
      by_contra hc
      rw [Bool.not_eq_false] at hc
      exact hnone ⟨none, [c]⟩ (.blanks (by simp [hc])) rfl
    have hle := IsLexeme.prefix_of_detached hother hc hrest hfront
    have hpos := List.length_pos_iff.2 hother.ne_nil
    exact hnone other hother (hle.eq_of_length_le hpos)

/-- A spelling on its own is read as one token. -/
lemma Kind.Spells.tokensFrom_eq (h : kind.Spells rule cs) :
    tokensFrom rule filename p cs = (Token.ofPiece? filename p ⟨some kind, cs⟩).toList := by
  have htaken : Piece.IsTaken rule (cs ++ []) _ := h.isTaken (by simp [Detached])
  have hread : tokensFrom rule filename p (cs ++ []) = _ := tokensFrom_of_isTaken htaken
  rwa [tokensFrom_nil, List.append_nil, List.append_nil] at hread

/-! ### Reading what is written -/

/-- The kind and the lexeme of a token. -/
def Token.spelling (t : Token) : Kind × String := (t.kind, t.lexeme)

lemma map_spelling_of_spells {word : String} (h : kind.Spells rule word.toList)
    (hrest : Detached rest) :
    (tokensFrom rule filename p (word.toList ++ rest)).map Token.spelling =
      (kind, word) ::
        (tokensFrom rule filename (p.advance word.toList) rest).map Token.spelling := by
  rw [tokensFrom_of_isTaken (h.isTaken hrest)]
  simp [Token.ofPiece?, Token.spelling]

/-- A text of blanks. -/
def IsGap (s : String) : Prop := ∀ c ∈ s.toList, Text.isBlank c = true

instance (s : String) : Decidable (IsGap s) :=
  decidable_of_iff (s.toList.all Text.isBlank = true) List.all_eq_true

/-- Spellings with the gaps behind them, one after the other. -/
def written (entries : List ((Kind × String) × String)) : String :=
  String.join (entries.map fun entry => entry.1.2 ++ entry.2)

lemma toList_written_cons (entry : (Kind × String) × String)
    (entries : List ((Kind × String) × String)) :
    (written (entry :: entries)).toList =
      entry.1.2.toList ++ (entry.2.toList ++ (written entries).toList) := by
  simp [written, String.toList_join]

/-- A gap detaches what stands before it, and at the end of a text it may be missing. -/
lemma detached_append {gap : String} (hgap : IsGap gap) (hsep : gap = "" → rest = []) :
    Detached (gap.toList ++ rest) := by
  intro c hc
  cases hcs : gap.toList with
  | nil =>
    rw [hcs, hsep (String.toList_eq_nil_iff.1 hcs)] at hc
    cases hc
  | cons d ds =>
    rw [hcs] at hc
    obtain rfl : d = c := by simpa using hc
    exact hgap d (by simp [hcs])

/-- Spellings are read back, if there is a gap between each of them and the next. -/
theorem map_spelling_written (entries : List ((Kind × String) × String))
    (h : ∀ entry ∈ entries, entry.1.1.Spells rule entry.1.2.toList ∧ IsGap entry.2)
    (hsep : ∀ entry ∈ entries.dropLast, entry.2 ≠ "") :
    (tokensFrom rule filename p (written entries).toList).map Token.spelling =
      entries.map Prod.fst := by
  induction entries generalizing p with
  | nil => simp [written, String.join]
  | cons entry entries ih =>
    obtain ⟨hspells, hgap⟩ := h entry List.mem_cons_self
    have hdetached : Detached (entry.2.toList ++ (written entries).toList) := by
      refine detached_append hgap fun hempty => ?_
      cases entries with
      | nil => rfl
      | cons next entries => exact absurd hempty (hsep entry (by simp))
    rw [toList_written_cons, map_spelling_of_spells hspells hdetached, tokensFrom_blanks hgap,
      List.map_cons, ih]
    · intro e he
      exact h e (List.mem_cons_of_mem entry he)
    · intro e he
      cases entries with
      | nil => cases he
      | cons next entries => exact hsep e (List.mem_cons_of_mem entry he)

/-- The tokens of every text are spelled as their kinds are, and whatever spellings are written in
a row, with gaps between them and perhaps at both ends, are read back. -/
theorem readTokens_roundTrip (rule : KeywordRule) (filename : String) :
    (∀ source, ∀ t ∈ readTokens rule filename source, t.kind.Spells rule t.lexeme.toList) ∧
    ∀ (lead : String) (entries : List ((Kind × String) × String)),
      IsGap lead →
      (∀ entry ∈ entries, entry.1.1.Spells rule entry.1.2.toList ∧ IsGap entry.2) →
      (∀ entry ∈ entries.dropLast, entry.2 ≠ "") →
      (readTokens rule filename (lead ++ written entries)).map Token.spelling =
        entries.map Prod.fst := by
  constructor
  · intro source t ht
    exact spells_of_mem_tokensFrom ht
  · intro lead entries hlead h hsep
    rw [readTokens, String.toList_append, tokensFrom_blanks hlead]
    exact map_spelling_written entries h hsep

/-- One token of each sort, with gaps of all sorts. -/
theorem readTokens_roundTrip_while :
    let entries : List ((Kind × String) × String) :=
      [((.whileWord, "while"), "\n\t"), ((.identifier, "x_1"), " "), ((.lessEqual, "<="), "\r\n"),
       ((.number, "42"), "\x0c"), ((.unknown, "é"), "")]
    IsGap "  " ∧
    (∀ entry ∈ entries, entry.1.1.Spells .anywhere entry.1.2.toList ∧ IsGap entry.2) ∧
    (∀ entry ∈ entries.dropLast, entry.2 ≠ "") ∧
    (readTokens .anywhere unnamed ("  " ++ written entries)).map Token.spelling =
      entries.map Prod.fst := by
  intro entries
  have hgap : IsGap "  " := by decide
  have hentries : ∀ entry ∈ entries,
      entry.1.1.Spells .anywhere entry.1.2.toList ∧ IsGap entry.2 := by
    rw [List.forall_mem_cons, List.forall_mem_cons, List.forall_mem_cons, List.forall_mem_cons,
      List.forall_mem_singleton]
    refine ⟨⟨.keyword ?_, ?_⟩, ⟨.name ?_ ?_, ?_⟩, ⟨.sign ?_, ?_⟩, ⟨.number ?_, ?_⟩,
      ⟨.unknown ?_, ?_⟩⟩ <;> decide
  have hsep : ∀ entry ∈ entries.dropLast, entry.2 ≠ "" := by decide
  exact ⟨hgap, hentries, hsep,
    (readTokens_roundTrip .anywhere unnamed).2 "  " entries hgap hentries hsep⟩

end BoolWhile
