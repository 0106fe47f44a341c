import BoolWhile.Session
import BoolWhile.Proofs.Tokens.FirstPiece
import Mathlib.Data.List.Forall2

/-!
# The tokens of a text cover it

The pieces of a text lie end to end, each at the position behind the text before it. Runs of blanks
are all that is left out of the tokens.
-/

namespace BoolWhile

/-! ### Places of pieces -/

section

variable {p q : Position} {piece : Piece} {parts : List Piece}

/-- A piece is located behind the text of the pieces before it. -/
lemma exists_of_mem_locate (h : (q, piece) ∈ locate p parts) :
    ∃ before after, parts = before ++ piece :: after ∧
      q = p.advance (before.map Piece.text).flatten := by
  induction parts generalizing p with
  | nil => simp at h
  | cons first parts ih =>
    rw [locate_cons] at h
    rcases List.mem_cons.1 h with h | h
    · obtain ⟨rfl, rfl⟩ := Prod.mk.inj h
      exact ⟨[], parts, rfl, rfl⟩
    · obtain ⟨before, after, rfl, rfl⟩ := ih h
      refine ⟨first :: before, after, rfl, ?_⟩
      rw [List.map_cons, List.flatten_cons, Position.advance_append]

lemma mem_of_mem_locate (h : (q, piece) ∈ locate p parts) : piece ∈ parts := by
  obtain ⟨before, after, rfl, -⟩ := exists_of_mem_locate h
  exact List.mem_append_right _ List.mem_cons_self

lemma le_offset_of_mem_locate (h : (q, piece) ∈ locate p parts) : p.offset ≤ q.offset := by
  obtain ⟨before, after, -, rfl⟩ := exists_of_mem_locate h
  rw [Position.offset_advance]
  exact Nat.le_add_right _ _

lemma pairwise_locate (p : Position) (parts : List Piece) :
    (locate p parts).Pairwise fun a b => a.1.offset + a.2.text.length ≤ b.1.offset := by
  induction parts generalizing p with
  | nil => exact .nil
  | cons first parts ih =>
    rw [locate_cons]
    constructor
    · intro b hb
      have hle := le_offset_of_mem_locate hb
      rwa [Position.offset_advance] at hle
    · exact ih _

lemma exists_mem_locate (p : Position) (parts : List Piece) {i : Nat} (hp : p.offset ≤ i)
    (hi : i < p.offset + (parts.map Piece.text).flatten.length) :
    ∃ q piece, (q, piece) ∈ locate p parts ∧ q.offset ≤ i ∧ i < q.offset + piece.text.length := by
  induction parts generalizing p with
  | nil =>
    rw [List.map_nil, List.flatten_nil, List.length_nil] at hi
    omega
  | cons first parts ih =>
    rw [List.map_cons, List.flatten_cons, List.length_append] at hi
    rw [locate_cons]
    by_cases hfirst : i < p.offset + first.text.length
    · exact ⟨p, first, List.mem_cons_self, hp, hfirst⟩
    · have hoffset := p.offset_advance first.text
      obtain ⟨q, piece, hmem, hq⟩ := ih (p.advance first.text) (by omega) (by omega)
      exact ⟨q, piece, List.mem_cons_of_mem _ hmem, hq⟩

/-- A piece of a text stands behind the part of the text that its position is the end of. -/
lemma of_mem_locate_pieces {rule : KeywordRule} {cs : List Char}
    (h : (q, piece) ∈ locate .start (pieces rule cs)) :
    q = Position.start.advance (cs.take q.offset) ∧
      (cs.drop q.offset).take piece.text.length = piece.text := by
  obtain ⟨before, after, hparts, hq⟩ := exists_of_mem_locate h
  have hcs := flatten_pieces rule cs
  rw [hparts, List.map_append, List.flatten_append, List.map_cons, List.flatten_cons] at hcs
  have hoffset : q.offset = (before.map Piece.text).flatten.length := by
    rw [hq, Position.offset_advance, Position.start, Nat.zero_add]
  constructor
  · rw [← hcs, hoffset, List.take_left']
    · exact hq
    · rfl
  · rw [← hcs, hoffset, List.drop_left', List.take_left']
    · rfl
    · rfl

end

/-! ### Tokens -/

lemma Position.inFile_start_advance (filename : String) (cs : List Char) :
    (Position.start.advance cs).inFile filename =
      ⟨filename, 1 + cs.count '\n', cs.length - lastLineFeed cs, cs.length⟩ := by
  have hlt := lastLineFeed_lt cs
  rw [Position.start_advance]
  simp only [Position.inFile, Location.mk.injEq, true_and, and_true]
  omega

/-- A token stands at an index of the text of a file, and is located there. -/
structure Token.StandsAt (t : Token) (filename : String) (text : List Char) (i : Nat) : Prop where
  location : t.location =
    ⟨filename, 1 + (text.take i).count '\n', i - lastLineFeed (text.take i), i⟩
  lexeme : (text.drop i).take t.lexeme.length = t.lexeme.toList
  nonempty : t.lexeme ≠ ""
  solid : ∀ c ∈ t.lexeme.toList, Text.isBlank c = false

/-- An index of a text lies outside of a token. -/
def Token.Misses (t : Token) (i : Nat) : Prop :=
  (i : Int) < t.location.offset ∨ t.location.offset + t.lexeme.length ≤ i

/-- Tokens stand in the text of a file one behind the other, with nothing but blanks around. -/
structure Covers (tokens : List Token) (filename : String) (text : List Char) : Prop where
  ordered : tokens.Pairwise fun (t u : Token) => t.location.offset < u.location.offset ∧
    t.location.offset + t.lexeme.length ≤ u.location.offset
  exact : ∀ t ∈ tokens, ∃ i, t.StandsAt filename text i
  blank : ∀ i c, text[i]? = some c → (∀ t ∈ tokens, t.Misses i) → Text.isBlank c = true

section

variable {rule : KeywordRule} {filename source : String} {p q : Position} {piece : Piece}
  {t u : Token} {cs : List Char}

lemma ofPiece?_eq_some (h : Token.ofPiece? filename q piece = some t) :
    piece.kind? = some t.kind ∧ t.lexeme = String.ofList piece.text ∧
      t.location = q.inFile filename := by
  obtain ⟨kind, hkind, rfl⟩ := Option.map_eq_some_iff.1 h
  exact ⟨hkind, rfl, rfl⟩

lemma exists_of_mem_tokensFrom (h : t ∈ tokensFrom rule filename p cs) :
    ∃ q piece, (q, piece) ∈ locate p (pieces rule cs) ∧
      Token.ofPiece? filename q piece = some t := by
  obtain ⟨⟨q, piece⟩, hmem, ht⟩ := List.mem_filterMap.1 h
  exact ⟨q, piece, hmem, ht⟩

lemma wellFormed_of_mem_tokensFrom (h : t ∈ tokensFrom rule filename p cs) :
    ∃ piece : Piece, piece.WellFormed ∧ piece.kind? = some t.kind ∧
      t.lexeme = String.ofList piece.text := by
  obtain ⟨q, piece, hmem, ht⟩ := exists_of_mem_tokensFrom h
  obtain ⟨hkind, hlexeme, -⟩ := ofPiece?_eq_some ht
  exact ⟨piece, wellFormed_of_mem_pieces (mem_of_mem_locate hmem), hkind, hlexeme⟩

lemma lexeme_ne_empty (h : t ∈ tokensFrom rule filename p cs) : t.lexeme ≠ "" := by
  obtain ⟨piece, hpiece, -, hlexeme⟩ := wellFormed_of_mem_tokensFrom h
  intro hempty
  rw [hempty] at hlexeme
  exact hpiece.nonempty (String.ofList_eq_empty_iff.1 hlexeme.symm)

lemma standsAt_of_mem_readTokens (h : t ∈ readTokens rule filename source) :
    ∃ i, t.StandsAt filename source.toList i := by
  obtain ⟨q, piece, hmem, ht⟩ := exists_of_mem_tokensFrom h
  obtain ⟨hkind, hlexeme, hlocation⟩ := ofPiece?_eq_some ht
  obtain ⟨hq, htext⟩ := of_mem_locate_pieces hmem
  have hwell := wellFormed_of_mem_pieces (mem_of_mem_locate hmem)
  refine ⟨q.offset, ?_, ?_, lexeme_ne_empty h, ?_⟩
  · have hlength : (source.toList.take q.offset).length = q.offset := by
      have hoffset := congrArg Position.offset hq
      rw [Position.offset_advance, Position.start, Nat.zero_add] at hoffset
      exact hoffset.symm
    have hfile := Position.inFile_start_advance filename (source.toList.take q.offset)
    rw [hlength, ← hq] at hfile
    rw [hlocation, hfile]
  · rw [hlexeme, String.length_ofList, String.toList_ofList]
    exact htext
  · rw [hlexeme, String.toList_ofList]
    exact hwell.solid (by simp [hkind])

lemma pairwise_readTokens (rule : KeywordRule) (filename source : String) :
    (readTokens rule filename source).Pairwise fun (t u : Token) =>
      t.location.offset + t.lexeme.length ≤ u.location.offset := by
  rw [readTokens, tokensFrom]
  refine List.pairwise_filterMap.2 ?_
  refine (pairwise_locate _ _).imp ?_
  intro a b hab t ht u hu
  obtain ⟨-, hlexeme, hlocation⟩ := ofPiece?_eq_some ht
  obtain ⟨-, -, hlocation'⟩ := ofPiece?_eq_some hu
  rw [hlexeme, hlocation, hlocation', String.length_ofList]
  show (a.1.offset : Int) + a.2.text.length ≤ b.1.offset
  omega

lemma isBlank_of_misses {i : Nat} {c : Char} (hc : source.toList[i]? = some c)
    (h : ∀ t ∈ readTokens rule filename source, t.Misses i) : Text.isBlank c = true := by
  have hi : i < source.toList.length := (List.getElem?_eq_some_iff.1 hc).1
  obtain ⟨q, piece, hmem, hle, hlt⟩ := exists_mem_locate .start (pieces rule source.toList)
    (Nat.zero_le i) (by rw [flatten_pieces, Position.start, Nat.zero_add]; exact hi)
  obtain ⟨-, htext⟩ := of_mem_locate_pieces hmem
  have hwell := wellFormed_of_mem_pieces (mem_of_mem_locate hmem)
  -- The piece around the index has to be a run of blanks, for all other pieces are tokens.
  cases hkind : piece.kind? with
  | none =>
    refine hwell.blank hkind c (List.mem_of_getElem? (i := i - q.offset) ?_)
    rw [← htext, List.getElem?_take_of_lt (by omega), List.getElem?_drop, ← hc]
    congr 1
    omega
  | some kind =>
    have ht : Token.mk kind (String.ofList piece.text) (q.inFile filename) ∈
        readTokens rule filename source := by
      refine List.mem_filterMap.2 ⟨(q, piece), hmem, ?_⟩
      simp [Token.ofPiece?, hkind]
    exfalso
    rcases h _ ht with hbefore | hbehind
    · have hlt' : (i : Int) < q.offset := hbefore
      omega
    · rw [String.length_ofList] at hbehind
      have hle' : (q.offset : Int) + piece.text.length ≤ i := hbehind
      omega

theorem covers_readTokens (rule : KeywordRule) (filename source : String) :
    Covers (readTokens rule filename source) filename source.toList where
  ordered := by
    refine (pairwise_readTokens rule filename source).imp_of_mem ?_
    intro t u ht _ htu
    have hpos : t.lexeme.length ≠ 0 := fun hzero =>
      lexeme_ne_empty ht (String.length_eq_zero_iff.1 hzero)
    exact ⟨by omega, htu⟩
  exact t ht := standsAt_of_mem_readTokens ht
  blank i c hc h := isBlank_of_misses hc h

end

end BoolWhile
