import BoolWhile.Proofs.Tokens.Cover
import BoolWhile.Proofs.Tokens.Lexeme

/-!
# Reading takes the longest lexeme

Under either keyword rule the first piece of a text is the longest lexeme that the text begins
with, or a single unknown character if it begins with none. The one exception is that where
keywords are recognized anywhere, a keyword is cut off the front of a longer word. This determines
the tokens of a text (`longestMatch_readTokens`).
-/

namespace BoolWhile

namespace Piece

/-- A lexeme stands at the front of a text, and none that stands there is longer. -/
structure IsLongest (piece : Piece) (text : List Char) : Prop where
  isLexeme : piece.IsLexeme
  front : piece.text <+: text
  longest : ∀ other : Piece, other.IsLexeme → other.text <+: text →
    other.text.length ≤ piece.text.length

/-- What a keyword rule has taken from the front of a text. -/
inductive IsTaken (rule : KeywordRule) (text : List Char) : Piece → Prop
  | longest {piece : Piece} (h : piece.IsLongest text)
    (hwhole : rule = .anywhere → ∀ entry ∈ Spellings.keywords, ¬entry.1.toList <+: piece.text) :
    IsTaken rule text piece
  | keyword {piece : Piece} {entry : String × Kind} (hrule : rule = .anywhere)
    (h : piece.IsLongest text) (hmem : entry ∈ Spellings.keywords)
    (hfront : entry.1.toList <+: piece.text) : IsTaken rule text ⟨some entry.2, entry.1.toList⟩
  | unknown {c : Char} {cs : List Char} (htext : text = c :: cs)
    (h : ∀ piece : Piece, piece.IsLexeme → ¬piece.text <+: text) :
    IsTaken rule text ⟨some .unknown, [c]⟩

variable {rule : KeywordRule} {piece other : Piece} {entry : String × Kind} {c : Char}
  {cs text : List Char}

/-! ### At most one piece is taken -/

lemma IsLongest.eq (h : piece.IsLongest text) (h' : other.IsLongest text) : piece = other := by
  have hle := h.longest other h'.isLexeme h'.front
  have hge := h'.longest piece h.isLexeme h.front
  have htext : piece.text = other.text :=
    (List.prefix_of_prefix_length_le h.front h'.front hge).eq_of_length (by omega)
  have hkind := h.isLexeme.kind?_eq h'.isLexeme htext
  cases piece
  cases other
  simp_all

theorem IsTaken.eq (h : IsTaken rule text piece) (h' : IsTaken rule text other) :
    piece = other := by
  cases h with
  | longest h hwhole =>
    cases h' with
    | longest h' _ => exact h.eq h'
    | keyword hrule h' hmem hfront =>
      obtain rfl := h.eq h'
      exact absurd hfront (hwhole hrule _ hmem)
    | unknown _ h' => exact absurd h.front (h' _ h.isLexeme)
  | keyword hrule h hmem hfront =>
    cases h' with
    | longest h' hwhole =>
      obtain rfl := h.eq h'
      exact absurd hfront (hwhole hrule _ hmem)
    | keyword _ h' hmem' hfront' =>
      obtain rfl := h.eq h'
      rcases List.prefix_or_prefix_of_prefix hfront hfront' with hkeyword | hkeyword
      · rw [eq_of_mem_keywords hmem hmem' hkeyword]
      · rw [eq_of_mem_keywords hmem' hmem hkeyword]
    | unknown _ h' => exact absurd h.front (h' _ h.isLexeme)
  | unknown htext h =>
    cases h' with
    | longest h' _ => exact absurd h'.front (h _ h'.isLexeme)
    | keyword _ h' _ _ => exact absurd h'.front (h _ h'.isLexeme)
    | unknown htext' _ =>
      obtain ⟨rfl, -⟩ := List.cons.inj (htext.symm.trans htext')
      rfl

/-! ### The first piece is taken -/

/-- Of the operators, the one that the table finds is the longest. -/
lemma length_le_of_operator? {word : String} {kind : Kind} (h : operator? text = some (word, kind))
    (hmem : entry ∈ Spellings.operators) (hfront : entry.1.toList <+: text) :
    entry.1.toList.length ≤ word.toList.length := by
  have hordered : Spellings.operators.Pairwise fun (earlier later : String × Kind) =>
      ¬earlier.1.toList.isPrefixOf later.1.toList = true := by
    decide
  obtain ⟨hword, before, after, htable, hbefore⟩ := List.find?_eq_some_iff_append.1 h
  have hword : word.toList <+: text := List.isPrefixOf_iff_prefix.1 hword
  rw [htable, List.mem_append, List.mem_cons] at hmem
  rcases hmem with hmem | rfl | hmem
  · have hnot := hbefore entry hmem
    simp [List.isPrefixOf_iff_prefix.2 hfront] at hnot
  · exact Nat.le_refl _
  · -- An entry behind the one that was found does not begin with it, so it cannot be longer.
    have hnot : ¬word.toList <+: entry.1.toList := by
      rw [htable, List.pairwise_append, List.pairwise_cons] at hordered
      intro hle
      exact hordered.2.1.1 entry hmem (List.isPrefixOf_iff_prefix.2 hle)
    rcases List.prefix_or_prefix_of_prefix hfront hword with hle | hle
    · exact hle.length_le
    · exact absurd hle hnot

lemma not_prefix_of_operator?_eq_none (h : operator? text = none)
    (hmem : entry ∈ Spellings.operators) : ¬entry.1.toList <+: text := by
  intro hfront
  exact List.find?_eq_none.1 h entry hmem (List.isPrefixOf_iff_prefix.2 hfront)

lemma not_allows_of_keyword?_eq_none (h : keyword? rule text = none)
    (hmem : entry ∈ Spellings.keywords) (hfront : entry.1.toList <+: text) :
    rule.allows (text.drop entry.1.length) = false := by
  have hnot := List.find?_eq_none.1 h entry hmem
  simpa [List.isPrefixOf_iff_prefix.2 hfront] using hnot

/-- A lexeme at the front of a text begins with its first character. -/
lemma IsLexeme.exists_text_eq_cons (h : piece.IsLexeme) (hfront : piece.text <+: c :: cs) :
    ∃ ds, piece.text = c :: ds := by
  obtain ⟨d, ds, htext⟩ := List.exists_cons_of_ne_nil h.ne_nil
  rw [htext] at hfront
  obtain ⟨rfl, -⟩ := List.cons_prefix_cons.1 hfront
  exact ⟨ds, htext⟩

lemma isLongest_operator {word : String} {kind : Kind}
    (h : operator? (c :: cs) = some (word, kind)) :
    IsLongest ⟨some kind, word.toList⟩ (c :: cs) := by
  obtain ⟨hmem, hprefix⟩ := of_operator?_eq_some h
  refine ⟨.sign hmem, hprefix, ?_⟩
  intro other hother hfront
  obtain ⟨es, hword⟩ := (IsLexeme.sign hmem).exists_text_eq_cons hprefix
  obtain ⟨hchar, hblank⟩ := first_of_mem_operators hmem hword
  obtain ⟨ds, htext⟩ := hother.exists_text_eq_cons hfront
  obtain ⟨entry, hentry, rfl⟩ :=
    hother.of_isSign htext (isLetter_eq_false hchar) (isDigit_eq_false hchar) hblank
  exact length_le_of_operator? h hentry hfront

/-- If all lexemes that begin with a character are runs of a class, the longest of them goes on as
long as the class does. -/
lemma isLongest_run {first more : Char → Bool} {kind? : Option Kind}
    (h : IsLexeme ⟨kind?, c :: cs.takeWhile more⟩)
    (hruns : ∀ other : Piece, other.IsLexeme → ∀ ds, other.text = c :: ds →
      Text.IsRun first more other.text) :
    IsLongest ⟨kind?, c :: cs.takeWhile more⟩ (c :: cs) := by
  refine ⟨h, List.cons_prefix_cons.2 ⟨rfl, List.takeWhile_prefix _⟩, ?_⟩
  intro other hother hfront
  obtain ⟨ds, htext⟩ := hother.exists_text_eq_cons hfront
  exact ((hruns other hother ds htext).prefix_takeWhile hfront).length_le

lemma isLongest_word {kind : Kind} (hc : Text.isLetter c = true)
    (h : IsLexeme ⟨some kind, c :: cs.takeWhile Text.isWordChar⟩) :
    IsLongest ⟨some kind, c :: cs.takeWhile Text.isWordChar⟩ (c :: cs) := by
  apply isLongest_run h
  intro other hother ds htext
  exact (hother.of_isLetter htext hc).1

lemma isLongest_number (hc : Text.isDigit c = true) :
    IsLongest ⟨some .number, c :: cs.takeWhile Text.isDigit⟩ (c :: cs) := by
  apply isLongest_run (.number (Text.isRun_takeWhile hc cs))
  intro other hother ds htext
  exact (hother.of_isDigit htext hc).1

lemma isLongest_blanks (hc : Text.isBlank c = true) :
    IsLongest ⟨none, c :: cs.takeWhile Text.isBlank⟩ (c :: cs) := by
  apply isLongest_run (.blanks (Text.isRun_takeWhile hc cs))
  intro other hother ds htext
  exact (hother.of_isBlank htext hc).1

/-- A text that a keyword begins begins with a letter. -/
lemma exists_eq_cons_of_prefix (hmem : entry ∈ Spellings.keywords)
    (hfront : entry.1.toList <+: text) : ∃ c cs, text = c :: cs ∧ Text.isLetter c = true := by
  obtain ⟨c, ds, hhead⟩ := List.exists_cons_of_ne_nil (isWord_of_mem_keywords hmem).ne_nil
  obtain ⟨rest, rfl⟩ := hfront
  exact ⟨c, ds ++ rest, by rw [hhead, List.cons_append], first_of_mem_keywords hmem hhead⟩

lemma not_prefix_of_isLetter (hc : Text.isLetter c = false) (hmem : entry ∈ Spellings.keywords) :
    ¬entry.1.toList <+: c :: cs := by
  intro hfront
  obtain ⟨d, ds, htext, hd⟩ := exists_eq_cons_of_prefix hmem hfront
  obtain ⟨rfl, -⟩ := List.cons.inj htext
  simp [hc] at hd

/-- No keyword begins an operator or a delimiter. -/
lemma not_prefix_of_mem_operators {entry' : String × Kind} (hmem : entry ∈ Spellings.keywords)
    (hmem' : entry' ∈ Spellings.operators) : ¬entry.1.toList <+: entry'.1.toList := by
  obtain ⟨c, cs, hhead⟩ := List.exists_cons_of_ne_nil (IsLexeme.sign hmem').ne_nil
  rw [show entry'.1.toList = c :: cs from hhead]
  exact not_prefix_of_isLetter (isLetter_eq_false (first_of_mem_operators hmem' hhead).1) hmem

/-- A keyword at the front of a text may be taken as a whole word if it is the whole word. -/
lemma allows_wholeWord_iff (hmem : entry ∈ Spellings.keywords)
    (hfront : entry.1.toList <+: c :: cs) :
    KeywordRule.wholeWord.allows ((c :: cs).drop entry.1.length) = true ↔
      entry.1.toList = c :: cs.takeWhile Text.isWordChar := by
  have hword := isWord_of_mem_keywords hmem
  obtain ⟨d, ds, hhead, -⟩ := exists_eq_cons_of_prefix hmem (List.prefix_refl _)
  obtain ⟨rest, htext⟩ := hfront
  have hdrop : (c :: cs).drop entry.1.length = rest := by
    rw [← htext, List.drop_left' String.length_toList]
  rw [hhead] at hword htext
  rw [hdrop, hhead]
  rw [List.cons_append] at htext
  obtain ⟨rfl, rfl⟩ := List.cons.inj htext
  rw [List.takeWhile_append_of_pos hword.2, List.cons_inj_right, List.self_eq_append_right]
  cases rest with
  | nil => simp [KeywordRule.allows]
  | cons e rest => simp [KeywordRule.allows, List.takeWhile_cons]

/-- Where keywords are recognized anywhere, a keyword at the front of a text is taken. -/
lemma isTaken_keyword (hmem : entry ∈ Spellings.keywords) (hfront : entry.1.toList <+: text) :
    IsTaken .anywhere text ⟨some entry.2, entry.1.toList⟩ := by
  obtain ⟨c, cs, rfl, hc⟩ := exists_eq_cons_of_prefix hmem hfront
  obtain ⟨kind, hword⟩ := exists_isLexeme_of_isWord (Text.isRun_takeWhile hc cs)
  refine .keyword rfl (isLongest_word hc hword) hmem ?_
  exact (isWord_of_mem_keywords hmem).prefix_takeWhile hfront

/-- Under either rule blanks are taken together. -/
lemma isTaken_blanks (hc : Text.isBlank c = true) (cs : List Char) :
    IsTaken rule (c :: cs) ⟨none, c :: cs.takeWhile Text.isBlank⟩ := by
  refine .longest (isLongest_blanks hc) ?_
  intro _ entry hmem
  exact not_prefix_of_isLetter (isLetter_eq_false (isWordChar_of_isBlank hc)) hmem

theorem Begins.isTaken (h : Begins rule c cs piece) : IsTaken rule (c :: cs) piece := by
  cases h with
  | @operator word kind h =>
    refine .longest (isLongest_operator h) ?_
    intro _ entry hentry
    exact not_prefix_of_mem_operators hentry (of_operator?_eq_some h).1
  | @keyword word kind _ h =>
    obtain ⟨hmem, hprefix, hallows⟩ := of_keyword?_eq_some h
    cases rule with
    | anywhere => exact isTaken_keyword hmem hprefix
    | wholeWord =>
      obtain ⟨d, ds, htext, hc⟩ := exists_eq_cons_of_prefix hmem hprefix
      obtain ⟨rfl, rfl⟩ := List.cons.inj htext
      have hwhole : word.toList = _ := (allows_wholeWord_iff hmem hprefix).1 hallows
      refine .longest ?_ (fun hrule => by cases hrule)
      rw [hwhole]
      apply isLongest_word hc
      rw [← hwhole]
      exact .keyword hmem
  | name _ hkeyword h =>
    refine .longest (isLongest_word h (.name (Text.isRun_takeWhile h cs) ?_)) ?_
    · intro entry hmem hwhole
      have hprefix : entry.1.toList <+: c :: cs := by
        rw [hwhole]
        exact List.cons_prefix_cons.2 ⟨rfl, List.takeWhile_prefix _⟩
      have hnot := not_allows_of_keyword?_eq_none hkeyword hmem hprefix
      cases rule with
      | anywhere => cases hnot
      | wholeWord => rw [(allows_wholeWord_iff hmem hprefix).2 hwhole] at hnot; cases hnot
    · rintro rfl entry hmem hfront
      have hprefix : entry.1.toList <+: c :: cs :=
        hfront.trans (List.cons_prefix_cons.2 ⟨rfl, List.takeWhile_prefix _⟩)
      cases not_allows_of_keyword?_eq_none hkeyword hmem hprefix
  | number _ _ h =>
    refine .longest (isLongest_number h) ?_
    intro _ entry hmem
    exact not_prefix_of_isLetter (isLetter_of_isDigit h) hmem
  | blanks _ _ h => exact isTaken_blanks h cs
  | unknown hoperator _ hletter hdigit hblank =>
    refine .unknown rfl ?_
    intro piece hpiece hfront
    obtain ⟨ds, htext⟩ := hpiece.exists_text_eq_cons hfront
    obtain ⟨entry, hmem, rfl⟩ := hpiece.of_isSign htext hletter hdigit hblank
    exact not_prefix_of_operator?_eq_none hoperator hmem hfront

theorem isTaken_iff : IsTaken rule (c :: cs) piece ↔ piece = first rule c cs := by
  have hfirst := (begins_first rule c cs).isTaken
  constructor
  · intro h
    exact h.eq hfirst
  · rintro rfl
    exact hfirst

/-- Where no lexeme begins a text, its first character is none. -/
lemma IsLexeme.ne_singleton (hother : other.IsLexeme)
    (h : ∀ piece : Piece, piece.IsLexeme → ¬piece.text <+: c :: cs) : other.text ≠ [c] := by
  intro hsingle
  apply h other hother
  rw [hsingle]
  exact List.prefix_append [c] cs

/-- What is taken is a lexeme or a character that is none. -/
lemma IsTaken.isLexeme_or_unknown (h : IsTaken rule text piece) :
    piece.IsLexeme ∨ ∃ c, piece = ⟨some .unknown, [c]⟩ ∧
      ∀ other : Piece, other.IsLexeme → other.text ≠ [c] := by
  cases h with
  | longest h _ => exact .inl h.isLexeme
  | keyword _ _ hmem _ => exact .inl (.keyword hmem)
  | @unknown c cs htext h =>
    subst htext
    exact .inr ⟨c, rfl, fun other hother => hother.ne_singleton h⟩

lemma IsTaken.front (h : IsTaken rule text piece) : piece.text <+: text := by
  cases h with
  | longest h _ => exact h.front
  | keyword _ h _ hfront => exact hfront.trans h.front
  | @unknown c cs htext _ =>
    rw [htext]
    exact List.prefix_append [c] cs

lemma IsTaken.ne_nil (h : IsTaken rule text piece) : piece.text ≠ [] := by
  cases h with
  | longest h _ => exact h.isLexeme.ne_nil
  | keyword _ _ hmem _ => exact (isWord_of_mem_keywords hmem).ne_nil
  | unknown _ _ => exact List.cons_ne_nil _ _

end Piece

/-! ### The tokens of a text -/

/-- Taking piece after piece from a text at a position of a file gives tokens. Runs of blanks are
dropped. -/
inductive Tokenizes (rule : KeywordRule) (filename : String) :
    Position → List Char → List Token → Prop
  | nil (p : Position) : Tokenizes rule filename p [] []
  | token {p : Position} {kind : Kind} {lexeme rest : List Char} {tokens : List Token}
    (h : Piece.IsTaken rule (lexeme ++ rest) ⟨some kind, lexeme⟩)
    (hrest : Tokenizes rule filename (p.advance lexeme) rest tokens) :
    Tokenizes rule filename p (lexeme ++ rest)
      (⟨kind, String.ofList lexeme, p.inFile filename⟩ :: tokens)
  | blanks {p : Position} {blanks rest : List Char} {tokens : List Token}
    (h : Piece.IsTaken rule (blanks ++ rest) ⟨none, blanks⟩)
    (hrest : Tokenizes rule filename (p.advance blanks) rest tokens) :
    Tokenizes rule filename p (blanks ++ rest) tokens

variable {rule : KeywordRule} {filename source : String} {p : Position} {kind? : Option Kind}
  {text rest cs : List Char} {tokens : List Token} {t : Token}

/-- Reading goes on behind the piece that is taken. -/
theorem pieces_of_isTaken (h : Piece.IsTaken rule (text ++ rest) ⟨kind?, text⟩) :
    pieces rule (text ++ rest) = ⟨kind?, text⟩ :: pieces rule rest := by
  obtain ⟨c, ds, rfl⟩ := List.exists_cons_of_ne_nil h.ne_nil
  rw [List.cons_append] at h ⊢
  have hfirst := Piece.isTaken_iff.1 h
  have hrest : c :: ds ++ Piece.rest rule c (ds ++ rest) = c :: ds ++ rest := by
    have hcons := Piece.first_append_rest rule c (ds ++ rest)
    rwa [← hfirst] at hcons
  rw [pieces_cons, ← hfirst, List.append_cancel_left hrest]

theorem tokensFrom_of_isTaken (h : Piece.IsTaken rule (text ++ rest) ⟨kind?, text⟩) :
    tokensFrom rule filename p (text ++ rest) =
      (Token.ofPiece? filename p ⟨kind?, text⟩).toList ++
        tokensFrom rule filename (p.advance text) rest := by
  simp only [tokensFrom, pieces_of_isTaken h, locate_cons, List.filterMap_cons]
  cases Token.ofPiece? filename p ⟨kind?, text⟩ <;> rfl

/-- A text that is not empty is a piece and the rest. -/
lemma exists_isTaken (rule : KeywordRule) (hcs : cs ≠ []) :
    ∃ kind? text rest, Piece.IsTaken rule (text ++ rest) ⟨kind?, text⟩ ∧ cs = text ++ rest := by
  obtain ⟨c, cs, rfl⟩ := List.exists_cons_of_ne_nil hcs
  have h : Piece.IsTaken rule (c :: cs) (Piece.first rule c cs) := Piece.isTaken_iff.2 rfl
  have hcons := Piece.first_append_rest rule c cs
  rw [← hcons] at h
  exact ⟨_, _, _, h, hcons.symm⟩

/-- What holds of the empty text, and of every text if it holds behind the first piece, holds of
all texts. -/
@[elab_as_elim]
theorem induction_pieces (rule : KeywordRule) {motive : List Char → Prop} (nil : motive [])
    (piece : ∀ {kind? : Option Kind} {text rest : List Char},
      Piece.IsTaken rule (text ++ rest) ⟨kind?, text⟩ → motive rest → motive (text ++ rest))
    (cs : List Char) : motive cs := by
  by_cases hcs : cs = []
  · rwa [hcs]
  · obtain ⟨kind?, text, rest, htaken, hsplit⟩ := exists_isTaken rule hcs
    have hshorter : rest.length < cs.length := by
      have hpos : 0 < text.length := List.length_pos_iff.2 htaken.ne_nil
      rw [hsplit, List.length_append]
      omega
    have hrest := induction_pieces rule nil piece rest
    rw [hsplit]
    exact piece htaken hrest
termination_by cs.length

theorem tokenizes_tokensFrom (rule : KeywordRule) (filename : String) (p : Position)
    (cs : List Char) : Tokenizes rule filename p cs (tokensFrom rule filename p cs) := by
  induction cs using induction_pieces rule generalizing p with
  | nil =>
    rw [tokensFrom_nil]
    exact .nil p
  | @piece kind? text rest htaken ih =>
    rw [tokensFrom_of_isTaken htaken]
    cases kind? with
    | none => exact .blanks htaken (ih _)
    | some kind => exact .token htaken (ih _)

theorem Tokenizes.eq_tokensFrom (h : Tokenizes rule filename p cs tokens) :
    tokens = tokensFrom rule filename p cs := by
  induction h with
  | nil p => simp
  | token h _ ih =>
    rw [tokensFrom_of_isTaken h, ih]
    rfl
  | blanks h _ ih =>
    rw [tokensFrom_of_isTaken h, ih]
    rfl

lemma exists_isTaken_of_mem (h : t ∈ tokensFrom rule filename p cs) :
    ∃ text, Piece.IsTaken rule text ⟨some t.kind, t.lexeme.toList⟩ := by
  obtain ⟨q, piece, hmem, ht⟩ := exists_of_mem_tokensFrom h
  obtain ⟨hkind, hlexeme, -⟩ := ofPiece?_eq_some ht
  obtain ⟨c, ds, rfl⟩ := exists_eq_first_of_mem_pieces (mem_of_mem_locate hmem)
  refine ⟨c :: ds, Piece.isTaken_iff.2 ?_⟩
  rw [hlexeme, String.toList_ofList, ← hkind]

/-- The tokens of a text are those that longest matches give it, and the only ones. Whatever is
no operator, word or number is an unknown character. -/
theorem longestMatch_readTokens (rule : KeywordRule) (filename source : String) :
    (∀ tokens, Tokenizes rule filename .start source.toList tokens ↔
      tokens = readTokens rule filename source) ∧
    ∀ t ∈ readTokens rule filename source,
      if t.kind = .unknown then
        ∃ c, t.lexeme.toList = [c] ∧ ∀ piece : Piece, piece.IsLexeme → piece.text ≠ [c]
      else
        t.lexeme ∈ Spellings.operators.map Prod.fst ∨ Text.IsWord t.lexeme.toList ∨
          Text.IsNumber t.lexeme.toList := by
  refine ⟨fun tokens => ⟨Tokenizes.eq_tokensFrom, ?_⟩, ?_⟩
  · rintro rfl
    exact tokenizes_tokensFrom rule filename .start source.toList
  · intro t ht
    obtain ⟨text, h⟩ := exists_isTaken_of_mem ht
    rcases h.isLexeme_or_unknown with hlexeme | ⟨c, hpiece, hnone⟩
    · have hkind : t.kind ≠ .unknown := fun hkind =>
        hlexeme.kind?_ne_unknown (congrArg some hkind)
      have hclass := hlexeme.mem_operators_or_isWord_or_isNumber (by simp)
      rw [String.ofList_toList] at hclass
      rwa [if_neg hkind]
    · obtain ⟨hkind, htext⟩ := Piece.mk.inj hpiece
      rw [if_pos (Option.some.inj hkind)]
      exact ⟨c, htext, hnone⟩

/-- An underscore that begins no word is an unknown character. -/
theorem longestMatch_readTokens_underscore :
    let t : Token := ⟨.unknown, "_", ⟨unnamed, 1, 1, 0⟩⟩
    t ∈ readTokens .wholeWord unnamed "_x" ∧
      ∃ c, t.lexeme.toList = [c] ∧ ∀ piece : Piece, piece.IsLexeme → piece.text ≠ [c] := by
  intro t
  have h : t ∈ readTokens .wholeWord unnamed "_x" := by decide +kernel
  exact ⟨h, (longestMatch_readTokens .wholeWord unnamed "_x").2 t h⟩

end BoolWhile
