import BoolWhile.Proofs.Tokens.RoundTrip

/-!
# Comparing the keyword rules

Where keywords are whole words, names are read that the other rule would cut into keywords, names,
numbers and underscores. Nothing else changes, for what a word is cut into does not depend on the
text around it (`wholeWord_merges`).
-/

namespace BoolWhile

/-- What a token is where keywords are recognized anywhere. Only a name is read again. -/
def Token.splitKeywords (t : Token) : List Token :=
  if t.kind = .identifier then
    (readTokens .anywhere t.location.filename t.lexeme).map (Token.displace (.to t.location))
  else [t]

variable {rule : KeywordRule} {filename source : String} {p : Position} {kind? : Option Kind}
  {text rest word cs : List Char} {piece : Piece} {t : Token}

/-! ### Words are read on their own -/

/-- No piece reaches over the end of a word. -/
lemma Piece.IsTaken.prefix_word (h : Piece.IsTaken rule (word ++ rest) piece) (hne : word ≠ [])
    (hword : ∀ d ∈ word, Text.isWordChar d = true)
    (hrest : ∀ d ∈ rest.head?, Text.isWordChar d = false) : piece.text <+: word := by
  obtain ⟨c, ds, rfl⟩ := List.exists_cons_of_ne_nil hne
  have hfront := h.front
  rcases h.isLexeme_or_unknown with hlexeme | ⟨d, rfl, -⟩
  · obtain ⟨es, htext⟩ := hlexeme.exists_text_eq_cons hfront
    exact Text.prefix_of_forall_mem hfront
      (hlexeme.forall_isWordChar htext (hword c List.mem_cons_self)) hrest
  · obtain ⟨rfl, -⟩ := List.cons_prefix_cons.1 hfront
    exact List.prefix_append [d] ds

/-- The characters of a word are read by themselves, whatever follows the word. -/
theorem tokensFrom_word (rule : KeywordRule) (filename : String) (p : Position)
    (word rest : List Char) (hword : ∀ d ∈ word, Text.isWordChar d = true)
    (hrest : ∀ d ∈ rest.head?, Text.isWordChar d = false) :
    tokensFrom rule filename p (word ++ rest) =
      tokensFrom rule filename p word ++ tokensFrom rule filename (p.advance word) rest := by
  generalize hcs : word ++ rest = cs
  induction cs using induction_pieces rule generalizing p word with
  | nil =>
    obtain ⟨rfl, rfl⟩ := List.append_eq_nil_iff.1 hcs
    simp
  | @piece kind? text behind htaken ih =>
    by_cases hne : word = []
    · subst hne hcs
      simp
    obtain ⟨word, rfl⟩ := (hcs ▸ htaken).prefix_word hne hword hrest
    obtain rfl : word ++ rest = behind := by simpa using hcs
    rw [← List.append_assoc] at htaken ⊢
    refine tokensFrom_append_of_isTaken htaken (ih _ word ?_ rfl)
    intro d hd
    exact hword d (List.mem_append_right text hd)

/-! ### One piece under both rules -/

/-- Where keywords are whole words, the longest lexeme is taken. -/
lemma Piece.IsTaken.isLongest (h : Piece.IsTaken .wholeWord cs piece)
    (hkind : piece.kind? ≠ some .unknown) : piece.IsLongest cs := by
  cases h with
  | longest h _ => exact h
  | keyword hrule _ _ _ => cases hrule
  | unknown _ _ => exact absurd rfl hkind

/-- The text behind a name does not continue it. -/
lemma isWord_of_isTaken (h : Piece.IsTaken .wholeWord (text ++ rest) ⟨some .identifier, text⟩) :
    Text.IsWord text ∧ ∀ d ∈ rest.head?, Text.isWordChar d = false := by
  obtain ⟨hword, -⟩ := Kind.Spells.of_identifier (h.spells rfl)
  refine ⟨hword, ?_⟩
  intro d hd
  by_contra hchar
  rw [Bool.not_eq_false] at hchar
  obtain ⟨rest, rfl⟩ := List.head?_eq_some_iff.1 hd
  obtain ⟨kind, hlonger⟩ := Piece.exists_isLexeme_of_isWord (hword.append_singleton hchar)
  have hle := (h.isLongest (by simp)).longest _ hlonger ⟨rest, by simp⟩
  rw [List.length_append, List.length_singleton] at hle
  exact absurd hle (Nat.not_succ_le_self _)

/-- Every other piece is the same under both rules. -/
lemma isTaken_anywhere (h : Piece.IsTaken .wholeWord cs piece)
    (hkind : piece.kind? ≠ some .identifier) : Piece.IsTaken .anywhere cs piece := by
  cases h with
  | longest h _ =>
    by_cases hkeyword : ∃ entry ∈ Spellings.keywords, entry.1.toList <+: piece.text
    · obtain ⟨entry, hmem, hfront⟩ := hkeyword
      obtain ⟨c, ds, htext, hc⟩ := Piece.exists_eq_cons_of_prefix hmem hfront
      rcases (h.isLexeme.of_isLetter htext hc).2 with ⟨entry', hmem', rfl⟩ | ⟨hname, -⟩
      · obtain rfl := Piece.eq_of_mem_keywords hmem hmem' hfront
        exact Piece.isTaken_keyword hmem h.front
      · exact absurd hname hkind
    · push Not at hkeyword
      exact .longest h fun _ => hkeyword
  | keyword hrule _ _ _ => cases hrule
  | unknown htext h => exact .unknown htext h

/-! ### All pieces -/

theorem flatMap_splitKeywords (filename : String) (p : Position) (cs : List Char) :
    (tokensFrom .wholeWord filename p cs).flatMap Token.splitKeywords =
      tokensFrom .anywhere filename p cs := by
  induction cs using induction_pieces .wholeWord generalizing p with
  | nil => simp
  | @piece kind? text rest htaken ih =>
    rw [tokensFrom_of_isTaken htaken, List.flatMap_append, ih]
    -- The other rule reads a name up to its end too, and takes every other piece as it is.
    by_cases hkind : kind? = some .identifier
    · subst hkind
      obtain ⟨hword, hend⟩ := isWord_of_isTaken htaken
      have hchars := hword.forall_mem fun _ => Piece.isWordChar_of_isLetter
      rw [tokensFrom_word .anywhere filename p text rest hchars hend,
        tokensFrom_displace .anywhere filename p text]
      simp [Token.ofPiece?, Token.splitKeywords, readTokens, Position.inFile]
    · rw [tokensFrom_of_isTaken (isTaken_anywhere htaken hkind)]
      cases kind? with
      | none => rfl
      | some kind => simp_all [Token.ofPiece?, Token.splitKeywords]

/-- Both rules agree on a name that no keyword begins. -/
lemma splitKeywords_eq_singleton (h : t.kind = .identifier →
      Text.IsWord t.lexeme.toList ∧ KeywordRule.anywhere.Frees t.lexeme.toList) :
    t.splitKeywords = [t] := by
  rw [Token.splitKeywords]
  split_ifs with hkind
  · obtain ⟨hword, hfree⟩ := h hkind
    have hspells := Kind.Spells.name hword hfree
    rw [readTokens, hspells.tokensFrom_eq]
    simp [Token.ofPiece?, Token.displace, Location.displace_start, ← hkind]
  · rfl

/-- The rules differ only on texts with a name that a keyword begins. -/
lemma readTokens_wholeWord_eq_iff (filename source : String) :
    readTokens .wholeWord filename source = readTokens .anywhere filename source ↔
      ∀ t ∈ readTokens .wholeWord filename source, t.kind = .identifier →
        ∀ entry ∈ Spellings.keywords, ¬entry.1.toList <+: t.lexeme.toList := by
  constructor
  · intro h t ht hkind
    rw [h] at ht
    have hspells := spells_of_mem_tokensFrom ht
    rw [hkind] at hspells
    exact hspells.of_identifier.2
  · intro h
    have hsplit := flatMap_splitKeywords filename .start source.toList
    rw [readTokens, readTokens, ← hsplit]
    symm
    refine (List.flatMap_congr ?_).trans (List.flatMap_singleton' _)
    intro t ht
    apply splitKeywords_eq_singleton
    intro hkind
    have hspells := spells_of_mem_tokensFrom ht
    rw [hkind] at hspells
    exact ⟨hspells.of_identifier.1, h t ht hkind⟩

/-- Where keywords are recognized anywhere, tokens have fewer spellings. -/
lemma Kind.Spells.wholeWord {kind : Kind} (h : kind.Spells .anywhere cs) :
    kind.Spells .wholeWord cs := by
  cases h with
  | sign hmem => exact .sign hmem
  | keyword hmem => exact .keyword hmem
  | number hnumber => exact .number hnumber
  | name hword hfree => exact .name hword hfree.ne
  | unknown hstray => exact .unknown hstray

/-- Spellings are read back when they are written with single spaces between them. -/
lemma map_spelling_intercalate (filename : String) (p : Position)
    (spellings : List (Kind × String))
    (h : ∀ spelling ∈ spellings, spelling.1.Spells rule spelling.2.toList) :
    (tokensFrom rule filename p (" ".intercalate (spellings.map Prod.snd)).toList).map
      Token.spelling = spellings := by
  induction spellings generalizing p with
  | nil => simp
  | cons spelling spellings ih =>
    have hspells := h spelling List.mem_cons_self
    cases spellings with
    | nil => simp [hspells.tokensFrom_eq, Token.ofPiece?, Token.spelling]
    | cons next spellings =>
      have hgap : IsGap " " := by decide
      rw [List.map_cons, List.map_cons, String.intercalate_cons_cons, String.toList_append,
        String.toList_append, List.append_assoc,
        map_spelling_of_spells hspells (detached_append hgap (by simp)), tokensFrom_blanks hgap,
        ← List.map_cons, ih]
      intro other hother
      exact h other (List.mem_cons_of_mem spelling hother)

/-- Reading keywords as whole words only merges tokens into names: the names have to be read again
by the other rule, each at its place. So the rules agree if no keyword begins a name, and the
lexemes of the other rule are told apart if spaces are put between them. -/
theorem wholeWord_merges (filename source : String) :
    (readTokens .wholeWord filename source).flatMap Token.splitKeywords =
      readTokens .anywhere filename source ∧
    (readTokens .wholeWord filename source = readTokens .anywhere filename source ↔
      ∀ t ∈ readTokens .wholeWord filename source, t.kind = .identifier →
        ∀ entry ∈ Spellings.keywords, ¬entry.1.toList <+: t.lexeme.toList) ∧
    (readTokens .wholeWord filename
        (" ".intercalate ((readTokens .anywhere filename source).map Token.lexeme))).map
      Token.spelling = (readTokens .anywhere filename source).map Token.spelling := by
  refine ⟨flatMap_splitKeywords filename .start source.toList,
    readTokens_wholeWord_eq_iff filename source, ?_⟩
  have hspells : ∀ spelling ∈ (readTokens .anywhere filename source).map Token.spelling,
      spelling.1.Spells .wholeWord spelling.2.toList := by
    intro spelling hmem
    obtain ⟨t, ht, rfl⟩ := List.mem_map.1 hmem
    exact (spells_of_mem_tokensFrom ht).wholeWord
  have hread := map_spelling_intercalate filename .start _ hspells
  rwa [List.map_map] at hread

end BoolWhile
