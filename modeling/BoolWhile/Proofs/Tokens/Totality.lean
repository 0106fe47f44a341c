import BoolWhile.Proofs.Tokens.History
import BoolWhile.Proofs.Tokens.Lexeme

/-!
# No text stops a reading

The loop that scans a text may stop at each of its steps. `Session.read` has no such steps and needs
none: the loop meets no fault on any text, comes to its end, and finds what is read
(`Session.scan_rewind`).
-/

namespace BoolWhile

variable {rule : KeywordRule} {filename lexeme : String} {location : Location} {c : Char}
  {cs text : List Char}

/-! ### No step fails -/

/-- The keys of a table stand in it once. -/
lemma lookup_of_mem {entry : String × Kind} :
    (entry ∈ Spellings.operators → Spellings.operators.lookup entry.1 = some entry.2) ∧
      (entry ∈ Spellings.keywords → Spellings.keywords.lookup entry.1 = some entry.2) := by
  have hoperators : ∀ entry ∈ Spellings.operators,
      Spellings.operators.lookup entry.1 = some entry.2 := by decide
  have hkeywords : ∀ entry ∈ Spellings.keywords,
      Spellings.keywords.lookup entry.1 = some entry.2 := by decide
  exact ⟨hoperators entry, hkeywords entry⟩

namespace PieceClass

/-- An alternative takes a piece without a fault: it matches the text of the piece, and finds its
token with the warnings about it. -/
structure Takes (alternative : PieceClass) (rule : KeywordRule) (cs : List Char) (piece : Piece) :
    Prop where
  first : first? rule cs = some (alternative, piece.text)
  found : ∀ filename p, alternative.found (String.ofList piece.text) (p.inFile filename) =
    .ok ((Token.ofPiece? filename p piece).toList,
      characterWarnings (Token.ofPiece? filename p piece).toList)

lemma takes_of_kind {alternative : PieceClass} {kind : Kind}
    (hfirst : first? rule cs = some (alternative, text)) (hkind : kind ≠ .unknown)
    (hfound : ∀ location, alternative.found (String.ofList text) location =
      .ok ([⟨kind, String.ofList text, location⟩], [])) :
    alternative.Takes rule cs ⟨some kind, text⟩ := by
  refine ⟨hfirst, fun filename p => ?_⟩
  have htoken : (Token.ofPiece? filename p ⟨some kind, text⟩).toList =
      [⟨kind, String.ofList text, p.inFile filename⟩] := rfl
  have hwarnings : characterWarnings [⟨kind, String.ofList text, p.inFile filename⟩] = [] :=
    characterWarnings_eq_nil fun _ ht => List.mem_singleton.1 ht ▸ hkind
  rw [htoken, hwarnings, hfound]

lemma takes_blanks (hfirst : first? rule cs = some (blanks, text)) :
    blanks.Takes rule cs ⟨none, text⟩ :=
  ⟨hfirst, fun _ _ => rfl⟩

/-- A single character is not too long to be warned about. -/
lemma takes_unknown (hfirst : first? rule cs = some (unknown, [c])) :
    unknown.Takes rule cs ⟨some .unknown, [c]⟩ := by
  refine ⟨hfirst, fun filename p => ?_⟩
  obtain ⟨d, hd⟩ := Diagnostic.unrecognized_singleton c (p.inFile filename)
  have htoken : (Token.ofPiece? filename p ⟨some .unknown, [c]⟩).toList =
      [⟨.unknown, String.singleton c, p.inFile filename⟩] := rfl
  have hwarnings :
      characterWarnings [⟨.unknown, String.singleton c, p.inFile filename⟩] = [d] := by
    simp [characterWarnings, hd, Except.toOption]
  rw [htoken, hwarnings, found, warn]
  show Except.map _ (Except.mapError _ (Diagnostic.unrecognized (String.singleton c) _)) = _
  rw [hd]
  rfl

/-- The piece that a text begins with is taken by one of the alternatives. -/
theorem exists_takes {piece : Piece} (h : Piece.Begins rule c cs piece) :
    ∃ alternative : PieceClass, alternative.Takes rule (c :: cs) piece := by
  cases h with
  | @operator word kind h =>
    have hmem := (Piece.of_operator?_eq_some h).1
    have hkind := (Piece.spelling_solid (.inl hmem)).2.2
    refine ⟨operator, takes_of_kind (by simp [first?, all, match?, h]) hkind fun location => ?_⟩
    rw [found, lookUp, String.ofList_toList, lookup_of_mem.1 hmem]
    rfl
  | @keyword word kind hoperator h =>
    have hmem := (Piece.of_keyword?_eq_some h).1
    have hkind := (Piece.spelling_solid (.inr hmem)).2.2
    have hfirst : first? rule (c :: cs) = some (keyword, word.toList) := by
      simp [first?, all, match?, hoperator, h]
    refine ⟨keyword, takes_of_kind hfirst hkind fun location => ?_⟩
    rw [found, lookUp, String.ofList_toList, lookup_of_mem.2 hmem]
    rfl
  | name hoperator hkeyword h =>
    have hfirst : first? rule (c :: cs) = some (name, c :: cs.takeWhile Text.isWordChar) := by
      simp [first?, all, match?, run?, hoperator, hkeyword, h]
    exact ⟨name, takes_of_kind hfirst (by decide) fun _ => rfl⟩
  | number hoperator hkeyword h =>
    have hletter := Piece.isLetter_of_isDigit h
    have hfirst : first? rule (c :: cs) = some (number, c :: cs.takeWhile Text.isDigit) := by
      simp [first?, all, match?, run?, hoperator, hkeyword, hletter, h]
    exact ⟨number, takes_of_kind hfirst (by decide) fun _ => rfl⟩
  | blanks hoperator hkeyword h =>
    have hword := Piece.isWordChar_of_isBlank h
    have hletter := Piece.isLetter_eq_false hword
    have hdigit := Piece.isDigit_eq_false hword
    have hfirst : first? rule (c :: cs) = some (blanks, c :: cs.takeWhile Text.isBlank) := by
      simp [first?, all, match?, run?, hoperator, hkeyword, hletter, hdigit, h]
    exact ⟨blanks, takes_blanks hfirst⟩
  | unknown hoperator hkeyword hletter hdigit hblank =>
    have hfirst : first? rule (c :: cs) = some (unknown, [c]) := by
      simp [first?, all, match?, run?, hoperator, hkeyword, hletter, hdigit, hblank]
    exact ⟨unknown, takes_unknown hfirst⟩

end PieceClass

namespace Session

variable {s t : Session}

lemma scanPiece_eq (h : s.source.toList.drop s.position.offset = c :: cs) :
    s.scanPiece = .ok (s.takeUp (Piece.first s.inForce c cs)) := by
  obtain ⟨alternative, htakes⟩ :=
    PieceClass.exists_takes (Piece.begins_first s.inForce c cs)
  rw [scanPiece, h, htakes.first]
  simp only [htakes.found]
  rfl

/-- Where a piece is taken up, a scan goes on behind it. -/
lemma scan_of_scan?_eq_some (h : s.scan? = some t) : s.scan = t.scan := by
  rw [scan?] at h
  split at h
  · cases h
  · rename_i c cs hrest
    obtain rfl := Option.some.inj h
    have hoffset : s.position.offset < s.source.toList.length := by
      by_contra hpast
      rw [List.drop_of_length_le (Nat.not_lt.1 hpast)] at hrest
      cases hrest
    have hlength : (Piece.first s.inForce c cs).text.length ≠ 0 := fun hzero =>
      (Piece.begins_first s.inForce c cs).wellFormed.nonempty (List.length_eq_zero_iff.1 hzero)
    have hmore : ¬(s.takeUp (Piece.first s.inForce c cs)).position.offset ≤
        s.position.offset := by
      rw [takeUp, Position.offset_advance]
      omega
    rw [scan, if_pos hoffset]
    split
    · rename_i fault hfault
      rw [scanPiece_eq hrest] at hfault
      cases hfault
    · rename_i t ht
      obtain rfl := Except.ok.inj ((scanPiece_eq hrest).symm.trans ht)
      rw [if_neg hmore]

/-- At the end of the text a scan is at its end. -/
lemma scan_of_scan?_eq_none (h : s.scan? = none) : s.scan = .ok s := by
  rw [scan?] at h
  split at h
  · rename_i hrest
    rw [scan, if_neg (Nat.not_lt.2 (List.drop_eq_nil_iff.1 hrest))]
  · cases h

lemma scan_of_scans (h : Relation.ReflTransGen (fun s t : Session => s.scan? = some t) s t) :
    s.scan = t.scan := by
  induction h with
  | refl => rfl
  | tail _ hlast ih => exact ih.trans (scan_of_scan?_eq_some hlast)

/-- A scan meets no fault, and finds what is read. -/
theorem scan_rewind (s : Session) : s.rewind.scan = .ok s.read := by
  obtain ⟨hscans, hend⟩ := s.read_scans
  rw [scan_of_scans hscans, scan_of_scan?_eq_none hend]

end Session

/-! ### What never fails -/

lemma not_exists_ok_eq_error {ε α : Type} (a : α) : ¬∃ e : ε, (.ok a : Except ε α) = .error e := by
  rintro ⟨e, h⟩
  cases h

/-- A text cannot be warned about if it is not printable and not one character long. -/
lemma Diagnostic.exists_error_unrecognized_iff (text : String) (location : Option Location) :
    (∃ e, unrecognized text location = .error e) ↔
      Text.allPrintable text = false ∧ text.length ≠ 1 := by
  have hhelp : (∃ e, unrecognized text location = .error e) ↔
      ∃ e, characterHelp text = .error e := by
    rw [unrecognized]
    cases characterHelp text with
    | ok help => exact iff_of_false (not_exists_ok_eq_error _) (not_exists_ok_eq_error _)
    | error e => exact iff_of_true ⟨e, rfl⟩ ⟨e, rfl⟩
  rw [hhelp, characterHelp, ← String.length_toList]
  by_cases hprintable : Text.allPrintable text = true
  · rw [if_pos hprintable]
    refine iff_of_false (not_exists_ok_eq_error _) fun h => ?_
    exact Bool.false_ne_true (h.1.symm.trans hprintable)
  · rw [if_neg hprintable]
    split
    · rename_i c hchars
      exact iff_of_false (not_exists_ok_eq_error _) fun h => h.2 (congrArg List.length hchars)
    · rename_i hchars
      refine iff_of_true ⟨_, rfl⟩ ⟨Bool.eq_false_iff.2 hprintable, fun hlength => ?_⟩
      obtain ⟨c, hc⟩ := List.length_eq_one_iff.1 hlength
      exact hchars c hc

namespace PieceClass

/-- What is asked of a lexeme behind a match: it stands in the table of its alternative, or can be
warned about. -/
structure Resolves (alternative : PieceClass) (lexeme : String) (location : Location) : Prop where
  operator : alternative = .operator → ∃ kind, Spellings.operators.lookup lexeme = some kind
  keyword : alternative = .keyword → ∃ kind, Spellings.keywords.lookup lexeme = some kind
  unknown : alternative = .unknown → ∃ d, Diagnostic.unrecognized lexeme location = .ok d

lemma resolves_of_found {alternative : PieceClass} {result : List Token × List Diagnostic}
    (h : alternative.found lexeme location = .ok result) :
    alternative.Resolves lexeme location := by
  constructor
  · rintro rfl
    cases hlookup : Spellings.operators.lookup lexeme with
    | none => simp [found, lookUp, hlookup, Except.map] at h
    | some kind => exact ⟨kind, rfl⟩
  · rintro rfl
    cases hlookup : Spellings.keywords.lookup lexeme with
    | none => simp [found, lookUp, hlookup, Except.map] at h
    | some kind => exact ⟨kind, rfl⟩
  · rintro rfl
    cases hwarning : Diagnostic.unrecognized lexeme location with
    | error e => simp [found, warn, hwarning, Except.map, Except.mapError] at h
    | ok d => exact ⟨d, rfl⟩

end PieceClass

/-- At every position inside a text, one of the alternatives matches at least one character, and
all that is asked of the lexeme is there. So a scan meets no fault, and ends where the text does.
What it could have met is there for other texts: those that are neither printable nor one character
long cannot be warned about. -/
theorem reading_never_fails (s : Session) :
    s.rewind.scan = .ok s.read ∧ s.read.position.offset = s.source.length ∧
      (∀ pos < s.source.length, ∃ alternative text,
        PieceClass.first? s.inForce (s.source.toList.drop pos) = some (alternative, text) ∧
          text ≠ [] ∧ text <+: s.source.toList.drop pos ∧
          ∀ p : Position, alternative.Resolves (String.ofList text) (p.inFile s.filename)) ∧
      ∀ text location, (∃ e, Diagnostic.unrecognized text location = .error e) ↔
        Text.allPrintable text = false ∧ text.length ≠ 1 := by
  refine ⟨s.scan_rewind, ?_, ?_, Diagnostic.exists_error_unrecognized_iff⟩
  · rw [s.position_read]
  · intro pos hpos
    rw [← String.length_toList] at hpos
    have hrest := List.drop_eq_getElem_cons hpos
    have hbegins :=
      Piece.begins_first s.inForce s.source.toList[pos] (s.source.toList.drop (pos + 1))
    obtain ⟨alternative, htakes⟩ := PieceClass.exists_takes hbegins
    rw [← hrest] at htakes
    refine ⟨alternative, _, htakes.first, hbegins.wellFormed.nonempty, ?_, fun p => ?_⟩
    · rw [hrest]
      exact ⟨_, Piece.first_append_rest _ _ _⟩
    · exact PieceClass.resolves_of_found (htakes.found s.filename p)

/-- A line separator behind a keyword is not printable, but one character long. -/
theorem reading_never_fails_lineSeparator :
    let s := Session.start .wholeWord unnamed "true\u2028"
    4 < s.source.length ∧ s.rewind.scan = .ok s.read ∧
      ∃ alternative text,
        PieceClass.first? .wholeWord ['\u2028'] = some (alternative, text) ∧ text ≠ [] ∧
          ∀ p : Position, alternative.Resolves (String.ofList text) (p.inFile unnamed) := by
  intro s
  have hlength : 4 < s.source.length := by decide +kernel
  have hrest : s.source.toList.drop 4 = ['\u2028'] := by decide +kernel
  obtain ⟨hscan, -, hmatches, -⟩ := reading_never_fails s
  obtain ⟨alternative, text, hfirst, hne, -, hresolves⟩ := hmatches 4 hlength
  rw [hrest] at hfirst
  exact ⟨hlength, hscan, alternative, text, hfirst, hne, hresolves⟩

end BoolWhile
