import BoolWhile.Proofs.Tokens.LongestMatch

/-!
# Reading is local

What is read from a part of a text does not depend on the rest, as long as no token lies across the
border. Hence a text can be cut in two between tokens, or inside of blanks, and each part read on
its own (`Session.read_cut`). The places of the second part are then counted from its beginning, so
they have to be displaced by what stands before it.
-/

namespace BoolWhile

/-! ### Displaced places -/

/-- The number of characters behind the last line feed of a text. -/
def lastLineWidth (cs : List Char) : Nat := (cs.reverse.takeWhile (· != '\n')).length

/-- How far a text stands behind the beginning of a file. Only the places on its first line are
displaced by columns. -/
structure Displacement where
  characters : Int
  lines : Int
  columns : Int
  deriving DecidableEq, Repr

/-- The displacement of what stands behind a text. -/
def Displacement.behind (cs : List Char) : Displacement :=
  ⟨cs.length, cs.count '\n', lastLineWidth cs⟩

/-- The displacement of what stands at a place. -/
def Displacement.to (l : Location) : Displacement := ⟨l.offset, l.line - 1, l.column - 1⟩

/-- A place of a text, where the text is displaced. -/
def Location.displace (d : Displacement) (l : Location) : Location :=
  ⟨l.filename, l.line + d.lines, if l.line = 1 then l.column + d.columns else l.column,
    l.offset + d.characters⟩

/-- A token of a text, where the text is displaced. -/
def Token.displace (d : Displacement) (t : Token) : Token :=
  { t with location := t.location.displace d }

/-- A warning about a text, where the text is displaced. -/
def Diagnostic.displace (d : Displacement) (w : Diagnostic) : Diagnostic :=
  { w with location := w.location.map (Location.displace d) }

lemma lastLineWidth_eq (cs : List Char) :
    (lastLineWidth cs : Int) = cs.length - lastLineFeed cs - 1 := by
  have hwidth : ∀ ds : List Char, (ds.takeWhile (· != '\n')).length = ds.idxOf '\n' := by
    intro ds
    induction ds with
    | nil => rfl
    | cons c ds ih =>
      by_cases hc : c = '\n'
      · simp [hc]
      · simp [hc, List.idxOf_cons_ne, ih]
  rw [lastLineWidth, hwidth, lastLineFeed]
  omega

/-- What stands behind a text stands at the place where the text ends. -/
lemma Displacement.to_start_advance (filename : String) (cs : List Char) :
    Displacement.to ((Position.start.advance cs).inFile filename) = .behind cs := by
  rw [Position.inFile_start_advance, Displacement.to, Displacement.behind, lastLineWidth_eq]
  simp only [Displacement.mk.injEq, and_true, true_and]
  omega

/-- A text that is displaced to a place begins there. -/
lemma Location.displace_start (l : Location) :
    (Position.start.inFile l.filename).displace (.to l) = l := by
  cases l
  simp only [Location.displace, Displacement.to, Position.inFile, Position.start,
    Location.mk.injEq, true_and]
  omega

/-- Moving over a text from a position of a file displaces the places of the text. -/
lemma Location.displace_start_advance (filename : String) (p : Position) (cs : List Char) :
    ((Position.start.advance cs).inFile filename).displace (.to (p.inFile filename)) =
      (p.advance cs).inFile filename := by
  by_cases h : '\n' ∈ cs
  · have hcount : cs.count '\n' ≠ 0 := fun hzero => List.count_eq_zero.1 hzero h
    rw [Position.advance_of_mem _ h, Position.advance_of_mem _ h]
    simp [Location.displace, Displacement.to, Position.inFile, Position.start]
    omega
  · rw [Position.advance_of_not_mem _ h, Position.advance_of_not_mem _ h]
    simp [Location.displace, Displacement.to, Position.inFile, Position.start]
    omega

lemma Token.ofPiece?_displace (filename : String) (p : Position) (cs : List Char)
    (piece : Piece) :
    (Token.ofPiece? filename (Position.start.advance cs) piece).map
        (Token.displace (.to (p.inFile filename))) =
      Token.ofPiece? filename (p.advance cs) piece := by
  cases hkind : piece.kind? with
  | none => simp [Token.ofPiece?, hkind]
  | some kind => simp [Token.ofPiece?, hkind, Token.displace, Location.displace_start_advance]

/-- A text reads the same wherever it stands, but for the places of its tokens. -/
theorem tokensFrom_displace (rule : KeywordRule) (filename : String) (p : Position)
    (cs : List Char) :
    tokensFrom rule filename p cs =
      (tokensFrom rule filename .start cs).map (Token.displace (.to (p.inFile filename))) := by
  -- Both runs have moved over the same text, so the text read already is carried along.
  have general : ∀ before : List Char,
      tokensFrom rule filename (p.advance before) cs =
        (tokensFrom rule filename (Position.start.advance before) cs).map
          (Token.displace (.to (p.inFile filename))) := by
    induction cs using induction_pieces rule with
    | nil => simp
    | @piece kind? text rest htaken ih =>
      intro before
      have hpiece := Token.ofPiece?_displace filename p before ⟨kind?, text⟩
      rw [tokensFrom_of_isTaken htaken, tokensFrom_of_isTaken htaken, List.map_append,
        ← Position.advance_append, ← Position.advance_append, ih, ← hpiece, Option.toList_map]
  exact general []

/-! ### Blanks in front of a text -/

section

variable {rule : KeywordRule} {filename : String} {p : Position} {kind? : Option Kind}
  {piece : Piece} {text as bs gap rest : List Char}

lemma tokensFrom_dropWhile (rule : KeywordRule) (filename : String) (p : Position)
    (cs : List Char) :
    tokensFrom rule filename p cs =
      tokensFrom rule filename (p.advance (cs.takeWhile Text.isBlank))
        (cs.dropWhile Text.isBlank) := by
  cases cs with
  | nil => simp
  | cons c cs =>
    by_cases hc : Text.isBlank c = true
    · have htaken : Piece.IsTaken rule (c :: cs) _ := Piece.isTaken_blanks hc cs
      have hcs : c :: cs = c :: cs.takeWhile Text.isBlank ++ cs.dropWhile Text.isBlank := by
        rw [List.cons_append, List.takeWhile_append_dropWhile]
      rw [hcs] at htaken
      rw [List.takeWhile_cons_of_pos hc, List.dropWhile_cons_of_pos hc, hcs,
        tokensFrom_of_isTaken htaken]
      rfl
    · rw [List.takeWhile_cons_of_neg hc, List.dropWhile_cons_of_neg hc, Position.advance_nil]

/-- Reading skips the blanks in front of a text. -/
theorem tokensFrom_blanks (hgap : ∀ c ∈ gap, Text.isBlank c = true) (rest : List Char) :
    tokensFrom rule filename p (gap ++ rest) = tokensFrom rule filename (p.advance gap) rest := by
  rw [tokensFrom_dropWhile, tokensFrom_dropWhile rule filename (p.advance gap) rest,
    List.takeWhile_append_of_pos hgap, List.dropWhile_append_of_pos hgap, Position.advance_append]

/-- Nothing is read from blanks. -/
lemma tokensFrom_eq_nil (hgap : ∀ c ∈ gap, Text.isBlank c = true) :
    tokensFrom rule filename p gap = [] := by
  rw [← List.append_nil gap, tokensFrom_blanks hgap, tokensFrom_nil]

/-! ### Cutting a text in two -/

/-- What is taken from the front of a text is taken from every part of it that holds the piece. -/
theorem Piece.IsTaken.of_append (h : Piece.IsTaken rule (text ++ rest) piece)
    (hfront : piece.text <+: text) : Piece.IsTaken rule text piece := by
  have hshort : ∀ other : Piece, other.text <+: text → other.text <+: text ++ rest :=
    fun other hother => hother.trans (List.prefix_append text rest)
  cases h with
  | longest h hwhole =>
    refine .longest ⟨h.isLexeme, hfront, ?_⟩ hwhole
    intro other hother hle
    exact h.longest other hother (hshort other hle)
  | keyword hrule _ hmem _ =>
    subst hrule
    exact isTaken_keyword hmem hfront
  | @unknown c cs htext h =>
    cases text with
    | nil => simp at hfront
    | cons d ds =>
      obtain ⟨rfl, -⟩ := List.cons.inj htext
      refine .unknown rfl ?_
      intro other hother hle
      exact h other hother (hshort other hle)

/-- A text is read part by part, if it is so behind the first piece. -/
lemma tokensFrom_append_of_isTaken
    (htaken : Piece.IsTaken rule (text ++ as ++ bs) ⟨kind?, text⟩)
    (hrest : tokensFrom rule filename (p.advance text) (as ++ bs) =
      tokensFrom rule filename (p.advance text) as ++
        tokensFrom rule filename ((p.advance text).advance as) bs) :
    tokensFrom rule filename p (text ++ as ++ bs) =
      tokensFrom rule filename p (text ++ as) ++
        tokensFrom rule filename (p.advance (text ++ as)) bs := by
  have hshort := htaken.of_append (List.prefix_append text as)
  rw [List.append_assoc] at htaken ⊢
  rw [tokensFrom_of_isTaken htaken, tokensFrom_of_isTaken hshort, hrest,
    Position.advance_append, List.append_assoc]

lemma Piece.IsTaken.forall_isBlank (h : Piece.IsTaken rule text ⟨none, gap⟩) :
    ∀ d ∈ gap, Text.isBlank d = true := by
  rcases h.isLexeme_or_unknown with hlexeme | ⟨c, hpiece, -⟩
  · exact (hlexeme.isBlanks rfl).forall_mem fun _ hd => hd
  · cases hpiece

/-- An index lies inside of a token, not at one of its ends. -/
def Token.Spans (t : Token) (i : Nat) : Prop :=
  t.location.offset < i ∧ (i : Int) < t.location.offset + t.lexeme.length

instance (t : Token) (i : Nat) : Decidable (t.Spans i) :=
  inferInstanceAs (Decidable (_ ∧ _))

/-- A piece that goes on behind a border is a run of blanks, if no token spans the border. -/
lemma kind?_eq_none_of_not_spans (htaken : Piece.IsTaken rule (as ++ bs ++ rest) ⟨kind?, as ++ bs⟩)
    (has : as ≠ []) (hbs : bs ≠ [])
    (h : ∀ t ∈ tokensFrom rule filename p (as ++ bs ++ rest), ¬t.Spans (p.offset + as.length)) :
    kind? = none := by
  cases kind? with
  | none => rfl
  | some kind =>
    have hpos := List.length_pos_iff.2 has
    have hpos' := List.length_pos_iff.2 hbs
    exfalso
    apply h ⟨kind, String.ofList (as ++ bs), p.inFile filename⟩
    · rw [tokensFrom_of_isTaken htaken]
      exact List.mem_append_left _ (List.mem_singleton.2 rfl)
    · simp only [Token.Spans, Position.inFile, String.length_ofList, List.length_append]
      omega

/-- A text is read part by part, if no token spans the border. -/
theorem tokensFrom_append (rule : KeywordRule) (filename : String) (p : Position)
    (as bs : List Char)
    (h : ∀ t ∈ tokensFrom rule filename p (as ++ bs), ¬t.Spans (p.offset + as.length)) :
    tokensFrom rule filename p (as ++ bs) =
      tokensFrom rule filename p as ++ tokensFrom rule filename (p.advance as) bs := by
  generalize hcs : as ++ bs = cs
  induction cs using induction_pieces rule generalizing p as with
  | nil =>
    obtain ⟨rfl, rfl⟩ := List.append_eq_nil_iff.1 hcs
    simp
  | @piece kind? text rest htaken ih =>
    by_cases has : as = []
    · subst has hcs
      simp
    have hfront : text <+: as ++ bs := ⟨rest, hcs.symm⟩
    -- Either the first piece ends in front of the border, or it reaches over it and is blank.
    by_cases hfits : text.length ≤ as.length
    · obtain ⟨as, rfl⟩ := List.prefix_of_prefix_length_le hfront (List.prefix_append _ bs) hfits
      obtain rfl : as ++ bs = rest := by simpa using hcs
      have hread : tokensFrom rule filename p (text ++ (as ++ bs)) = _ :=
        tokensFrom_of_isTaken htaken
      rw [← List.append_assoc] at htaken hread ⊢
      refine tokensFrom_append_of_isTaken htaken (ih _ as ?_ rfl)
      intro t ht
      rw [Position.offset_advance, Nat.add_assoc, ← List.length_append]
      apply h
      rw [hread]
      exact List.mem_append_right _ ht
    · obtain ⟨bs', rfl⟩ := List.prefix_of_prefix_length_le (List.prefix_append _ bs) hfront
        (Nat.le_of_not_le hfits)
      obtain rfl : bs = bs' ++ rest := by simpa using hcs
      have hbs : bs' ≠ [] := by
        rintro rfl
        simp at hfits
      rw [hcs] at h
      obtain rfl := kind?_eq_none_of_not_spans htaken has hbs h
      have hblank : ∀ d ∈ as, Text.isBlank d = true := by
        intro d hd
        exact htaken.forall_isBlank d (List.mem_append_left bs' hd)
      rw [← hcs, tokensFrom_blanks hblank, tokensFrom_eq_nil hblank, List.nil_append]

end

/-- A text of a file may be cut in two, if no token spans the border. -/
theorem readTokens_take_drop (rule : KeywordRule) (filename source : String) (k : Nat)
    (h : ∀ t ∈ readTokens rule filename source, ¬t.Spans k) :
    readTokens rule filename source =
      readTokens rule filename (String.ofList (source.toList.take k)) ++
        (readTokens rule filename (String.ofList (source.toList.drop k))).map
          (Token.displace (.behind (source.toList.take k))) := by
  rcases Nat.le_total k source.toList.length with hk | hk
  · have hborder : ∀ t ∈ tokensFrom rule filename .start
          (source.toList.take k ++ source.toList.drop k),
        ¬t.Spans (Position.start.offset + (source.toList.take k).length) := by
      rw [List.take_append_drop, List.length_take_of_le hk, Position.start, Nat.zero_add]
      exact h
    have happend := tokensFrom_append rule filename .start _ _ hborder
    rw [List.take_append_drop] at happend
    rw [readTokens, happend, readTokens, readTokens, String.toList_ofList, String.toList_ofList,
      tokensFrom_displace rule filename (Position.start.advance _),
      Displacement.to_start_advance]
  · rw [List.take_of_length_le hk, List.drop_of_length_le hk]
    simp [readTokens]

/-! ### Warnings -/

lemma Diagnostic.unrecognized_displace (d : Displacement) (lexeme : String)
    (location : Location) :
    (Diagnostic.unrecognized lexeme (location.displace d)).toOption =
      (Diagnostic.unrecognized lexeme location).toOption.map (Diagnostic.displace d) := by
  rw [Diagnostic.unrecognized, Diagnostic.unrecognized]
  cases Diagnostic.characterHelp lexeme <;> rfl

/-- Displaced tokens have displaced warnings. -/
theorem characterWarnings_displace (d : Displacement) (tokens : List Token) :
    characterWarnings (tokens.map (Token.displace d)) =
      (characterWarnings tokens).map (Diagnostic.displace d) := by
  rw [characterWarnings, characterWarnings, List.filterMap_map, List.map_filterMap]
  congr 1
  funext t
  by_cases hkind : t.kind = .unknown
  · simp only [Function.comp_apply, Token.displace, hkind, ↓reduceIte]
    exact Diagnostic.unrecognized_displace d t.lexeme t.location
  · simp [Token.displace, hkind]

lemma characterWarnings_append (tokens others : List Token) :
    characterWarnings (tokens ++ others) = characterWarnings tokens ++ characterWarnings others :=
  List.filterMap_append

/-- A text may be cut in two wherever no token spans the border, and each part read on its own.
The tokens of the second part, and its warnings, are those of the whole but for their places. -/
theorem Session.read_cut (s : Session) (k : Nat) (h : ∀ t ∈ s.read.tokens, ¬t.Spans k) :
    let front := { s with source := String.ofList (s.source.toList.take k) }.read
    let back := { s with source := String.ofList (s.source.toList.drop k) }.read
    let d := Displacement.behind (s.source.toList.take k)
    s.read.tokens = front.tokens ++ back.tokens.map (Token.displace d) ∧
      s.read.warnings = front.warnings ++ back.warnings.map (Diagnostic.displace d) := by
  intro front back d
  have htokens : s.read.tokens = front.tokens ++ back.tokens.map (Token.displace d) :=
    readTokens_take_drop s.inForce s.filename s.source k h
  refine ⟨htokens, ?_⟩
  show characterWarnings s.read.tokens = _
  rw [htokens, characterWarnings_append, characterWarnings_displace]
  rfl

/-- A cut inside of blanks that hold a line feed, with tokens on both lines of the second part. -/
theorem Session.read_cut_inside_blanks :
    let s := Session.start .anywhere unnamed "a\n  = b\nwhilefoo"
    (∀ t ∈ s.read.tokens, ¬t.Spans 3) ∧
      (let front := { s with source := String.ofList (s.source.toList.take 3) }.read
      let back := { s with source := String.ofList (s.source.toList.drop 3) }.read
      let d := Displacement.behind (s.source.toList.take 3)
      s.read.tokens = front.tokens ++ back.tokens.map (Token.displace d) ∧
        s.read.warnings = front.warnings ++ back.warnings.map (Diagnostic.displace d)) := by
  intro s
  have h : ∀ t ∈ s.read.tokens, ¬t.Spans 3 := by decide +kernel
  exact ⟨h, s.read_cut 3 h⟩

end BoolWhile
