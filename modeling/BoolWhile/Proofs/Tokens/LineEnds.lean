import BoolWhile.Proofs.Tokens.Gap
import BoolWhile.Text.LineEnd

/-!
# Line ends of a text

A carriage return in front of a line feed is one more blank at the end of its line, so it displaces
what stands behind it by one character, and nothing by a line or a column. Where a text is read from
a file, its line ends are unified before, so that not even the characters are displaced.
-/

namespace BoolWhile

/-- How a line may end. -/
inductive LineEnd
  | lineFeed
  | carriageReturn
  | pair
  deriving DecidableEq, Repr

/-- The characters of a line end. -/
def LineEnd.chars : LineEnd → List Char
  | lineFeed => ['\n']
  | carriageReturn => ['\r']
  | pair => ['\r', '\n']

/-- A text with a line end for every line feed. -/
def endLines (lineEnd : LineEnd) (cs : List Char) : List Char :=
  cs.flatMap fun c => if c = '\n' then lineEnd.chars else [c]

@[inherit_doc endLines] def withLineEnds (lineEnd : LineEnd) (source : String) : String :=
  String.ofList (endLines lineEnd source.toList)

variable {lineEnd : LineEnd} {cs line : List Char}

@[simp] lemma endLines_nil : endLines lineEnd [] = [] := rfl

@[simp] lemma endLines_lineFeed_cons :
    endLines lineEnd ('\n' :: cs) = lineEnd.chars ++ endLines lineEnd cs := rfl

lemma endLines_cons {c : Char} (hc : c ≠ '\n') :
    endLines lineEnd (c :: cs) = c :: endLines lineEnd cs := by
  rw [endLines, List.flatMap_cons, if_neg hc]
  rfl

lemma endLines_append (lineEnd : LineEnd) (cs ds : List Char) :
    endLines lineEnd (cs ++ ds) = endLines lineEnd cs ++ endLines lineEnd ds :=
  List.flatMap_append

/-- A text on one line stays as it is. -/
lemma endLines_of_not_mem (h : '\n' ∉ line) : endLines lineEnd line = line := by
  induction line with
  | nil => rfl
  | cons c line ih =>
    obtain ⟨hc, hline⟩ := not_or.1 (List.mem_cons.not.1 h)
    rw [endLines_cons (Ne.symm hc), ih hline]

/-! ### Unified line ends -/

/-- No line feed is left if lines end with carriage returns only. -/
lemma head?_endLines_carriageReturn (cs : List Char) :
    (endLines .carriageReturn cs).head? ≠ some '\n' := by
  cases cs with
  | nil => simp
  | cons c cs =>
    by_cases hc : c = '\n'
    · subst hc
      simp [LineEnd.chars]
    · rw [endLines_cons hc]
      simpa using hc

/-- Whatever line end the lines of a text have, it is unified with the line feed. -/
theorem unifyLineEnds_endLines (lineEnd : LineEnd) (h : '\r' ∉ cs) :
    Text.unifyLineEnds (endLines lineEnd cs) = cs := by
  induction cs with
  | nil => rfl
  | cons c cs ih =>
    obtain ⟨hc, hcs⟩ := not_or.1 (List.mem_cons.not.1 h)
    by_cases hfeed : c = '\n'
    · subst hfeed
      have hrest := ih hcs
      cases lineEnd with
      | lineFeed =>
        show Text.unifyLineEnds ('\n' :: endLines .lineFeed cs) = _
        rw [Text.unifyLineEnds_cons (.inl (by decide)), hrest, if_neg (by decide)]
      | carriageReturn =>
        show Text.unifyLineEnds ('\r' :: endLines .carriageReturn cs) = _
        rw [Text.unifyLineEnds_cons (.inr (head?_endLines_carriageReturn cs)), hrest, if_pos rfl]
      | pair =>
        show Text.unifyLineEnds ('\r' :: '\n' :: endLines .pair cs) = _
        rw [Text.unifyLineEnds_pair, hrest]
    · rw [endLines_cons hfeed, Text.unifyLineEnds_cons (.inl (Ne.symm hc)), ih hcs,
        if_neg (Ne.symm hc)]

/-! ### Places behind pairs -/

/-- A token that stands some characters further on the same line and column. -/
def Token.delay (n : Int) (t : Token) : Token :=
  { t with location := { t.location with offset := t.location.offset + n } }

section

variable {rule : KeywordRule} {filename : String} {p : Position} {t : Token}

lemma Position.advance_line (p : Position) (h : '\n' ∉ line) :
    p.advance (line ++ ['\n']) = ⟨p.offset + line.length + 1, p.line + 1, 1⟩ := by
  rw [advance_of_mem p (by simp), lastLineFeed_append_cons line List.not_mem_nil]
  simp [List.count_append, List.count_eq_zero.2 h]
  omega

/-- Every token of a text on one line is on the line where the text begins. -/
lemma line_of_mem_tokensFrom (h : '\n' ∉ line) (ht : t ∈ tokensFrom rule filename p line) :
    t.location.line = p.line := by
  obtain ⟨q, piece, hmem, hpiece⟩ := exists_of_mem_tokensFrom ht
  obtain ⟨before, after, hparts, rfl⟩ := exists_of_mem_locate hmem
  have hfront : (before.map Piece.text).flatten <+: line := by
    rw [← flatten_pieces rule line, hparts, List.map_append, List.flatten_append]
    exact List.prefix_append _ _
  have hcount : (before.map Piece.text).flatten.count '\n' = 0 :=
    List.count_eq_zero.2 fun hfeed => h (hfront.subset hfeed)
  rw [(ofPiece?_eq_some hpiece).2.2, Position.inFile, Position.line_advance, hcount]
  rfl

lemma tokensFrom_delay (p : Position) (n : Nat) (cs : List Char) :
    tokensFrom rule filename ⟨p.offset + n, p.line, p.column⟩ cs =
      (tokensFrom rule filename p cs).map (Token.delay n) := by
  rw [tokensFrom_displace, tokensFrom_displace rule filename p, List.map_map]
  refine List.map_congr_left fun t _ => ?_
  simp only [Token.displace, Token.delay, Location.displace, Displacement.to, Position.inFile,
    Function.comp_apply, Token.mk.injEq, Location.mk.injEq, true_and]
  omega

/-- A text is read line by line. -/
lemma tokensFrom_line (p : Position) (h : '\n' ∉ line) (rest : List Char) :
    tokensFrom rule filename p (line ++ '\n' :: rest) =
      tokensFrom rule filename p line ++
        tokensFrom rule filename ⟨p.offset + line.length + 1, p.line + 1, 1⟩ rest := by
  have hfeed : ∀ c ∈ ['\n'], Text.isBlank c = true := by simp [Text.isBlank]
  rw [tokensFrom_append_of_detached rule filename p line (by simp [Detached, Text.isBlank]),
    ← List.singleton_append, tokensFrom_blanks hfeed, ← Position.advance_append,
    Position.advance_line p h]

/-- A carriage return at the end of a line is not read. -/
lemma tokensFrom_carriageReturn (p : Position) (line : List Char) :
    tokensFrom rule filename p (line ++ ['\r']) = tokensFrom rule filename p line := by
  have hblank : ∀ c ∈ ['\r'], Text.isBlank c = true := by simp [Text.isBlank]
  rw [tokensFrom_append_of_detached rule filename p line (by simp [Detached, Text.isBlank]),
    tokensFrom_eq_nil hblank, List.append_nil]

/-- A token is displaced by one character for each pair at the end of a line before it. -/
theorem tokensFrom_endLines_pair (rule : KeywordRule) (filename : String) (p : Position) (n : Nat)
    (cs : List Char) :
    tokensFrom rule filename ⟨p.offset + n, p.line, p.column⟩ (endLines .pair cs) =
      (tokensFrom rule filename p cs).map fun t => t.delay (n + (t.location.line - p.line)) := by
  have hfirst : ∀ line : List Char, '\n' ∉ line →
      tokensFrom rule filename ⟨p.offset + n, p.line, p.column⟩ line =
        (tokensFrom rule filename p line).map fun t =>
          t.delay (n + (t.location.line - p.line)) := by
    intro line hline
    rw [tokensFrom_delay]
    refine List.map_congr_left fun t ht => ?_
    rw [line_of_mem_tokensFrom hline ht, Int.sub_self, Int.add_zero]
  by_cases hfeed : '\n' ∈ cs
  · obtain ⟨line, rest, rfl, hline⟩ := List.eq_append_cons_of_mem hfeed
    have hreturn : '\n' ∉ line ++ ['\r'] := by simpa using hline
    have hrest := tokensFrom_endLines_pair rule filename
      ⟨p.offset + line.length + 1, p.line + 1, 1⟩ (n + 1) rest
    have hoffset : p.offset + n + (line ++ ['\r']).length + 1 =
        p.offset + line.length + 1 + (n + 1) := by
      rw [List.length_append, List.length_singleton]
      omega
    have hsplit : endLines .pair (line ++ '\n' :: rest) =
        line ++ ['\r'] ++ '\n' :: endLines .pair rest := by
      rw [endLines_append, endLines_of_not_mem hline, endLines_lineFeed_cons, List.append_assoc]
      rfl
    rw [hsplit, tokensFrom_line _ hreturn, tokensFrom_carriageReturn, hfirst line hline,
      tokensFrom_line p hline, List.map_append, hoffset, hrest]
    refine congrArg _ (List.map_congr_left fun t _ => congrArg (Token.delay · t) ?_)
    push_cast
    omega
  · rw [endLines_of_not_mem hfeed]
    exact hfirst cs hfeed
termination_by cs.length

/-- The number of characters that a token is displaced by is that of the line feeds before it. -/
def Token.behindPairs (text : List Char) (t : Token) : Token :=
  t.delay ((text.take t.location.offset.toNat).count '\n')

/-- If the lines of a text end with pairs, its tokens stand on the same lines and columns, each of
them displaced by as many characters as lines end before it. -/
theorem readTokens_endLines_pair (rule : KeywordRule) (filename source : String) :
    readTokens rule filename (withLineEnds .pair source) =
      (readTokens rule filename source).map (Token.behindPairs source.toList) := by
  have hread := tokensFrom_endLines_pair rule filename .start 0 source.toList
  rw [readTokens, withLineEnds, String.toList_ofList]
  refine hread.trans (List.map_congr_left fun t ht => ?_)
  obtain ⟨i, hstands⟩ := standsAt_of_mem_readTokens ht
  rw [Token.behindPairs, hstands.location]
  refine congrArg (Token.delay · t) ?_
  simp only [Position.start, Int.toNat_natCast]
  omega

end

end BoolWhile
