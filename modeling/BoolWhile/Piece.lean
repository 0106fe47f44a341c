import BoolWhile.Text.Ascii
import BoolWhile.Token.Spelling

/-!
# Pieces of a text

A text is a sequence of pieces: runs of blanks, and lexemes with their kinds. The piece that a
text begins with is an operator, else a keyword, else a name, a number or a run of blanks of full
length, else a single unknown character. Since a piece is never empty, cutting one off leaves a
shorter text, and the pieces together are the text (`flatten_pieces`).
-/

namespace BoolWhile

/-- Where a keyword is recognized: at the beginning of any word, or only as a whole word. -/
inductive KeywordRule
  | anywhere
  | wholeWord
  deriving DecidableEq, Repr

/-- Whether a keyword may stand before the rest of a text. -/
def KeywordRule.allows : KeywordRule → (rest : List Char) → Bool
  | anywhere, _ => true
  | wholeWord, rest => !rest.head?.any Text.isWordChar

/-- A piece of a text; a run of blanks has no kind. -/
structure Piece where
  kind? : Option Kind
  text : List Char
  deriving DecidableEq, Repr

namespace Piece

/-- The operator that a text begins with. -/
def operator? (cs : List Char) : Option (String × Kind) :=
  Spellings.operators.find? fun entry => entry.1.toList.isPrefixOf cs

/-- The keyword that a text begins with. -/
def keyword? (rule : KeywordRule) (cs : List Char) : Option (String × Kind) :=
  Spellings.keywords.find? fun entry =>
    entry.1.toList.isPrefixOf cs && rule.allows (cs.drop entry.1.length)

/-- The kind of the first piece of a text, and how many of the characters `cs` after the first
character `c` belong to it. -/
def extent (rule : KeywordRule) (c : Char) (cs : List Char) : Option Kind × Nat :=
  match operator? (c :: cs) <|> keyword? rule (c :: cs) with
  | some (word, kind) => (some kind, word.length - 1)
  | none =>
    if Text.isLetter c then (some .identifier, (cs.takeWhile Text.isWordChar).length)
    else if Text.isDigit c then (some .number, (cs.takeWhile Text.isDigit).length)
    else if Text.isBlank c then (none, (cs.takeWhile Text.isBlank).length)
    else (some .unknown, 0)

/-- The first piece of a text. -/
def first (rule : KeywordRule) (c : Char) (cs : List Char) : Piece :=
  let (kind?, more) := extent rule c cs
  ⟨kind?, c :: cs.take more⟩

/-- What the first piece of a text leaves. -/
def rest (rule : KeywordRule) (c : Char) (cs : List Char) : List Char :=
  cs.drop (extent rule c cs).2

@[simp] theorem first_append_rest (rule : KeywordRule) (c : Char) (cs : List Char) :
    (first rule c cs).text ++ rest rule c cs = c :: cs := by
  simp [first, rest]

theorem length_rest_le (rule : KeywordRule) (c : Char) (cs : List Char) :
    (rest rule c cs).length ≤ cs.length := by
  simp [rest]

end Piece

/-- The pieces of a text, behind those already `done` in reverse. -/
def piecesOnto (rule : KeywordRule) (done : List Piece) : List Char → List Piece
  | [] => done.reverse
  | c :: cs => piecesOnto rule (Piece.first rule c cs :: done) (Piece.rest rule c cs)
termination_by cs => cs.length
decreasing_by
  have := Piece.length_rest_le rule c cs
  simp only [List.length_cons]
  omega

/-- The pieces of a text. -/
def pieces (rule : KeywordRule) (cs : List Char) : List Piece := piecesOnto rule [] cs

theorem piecesOnto_eq (rule : KeywordRule) (done : List Piece) (cs : List Char) :
    piecesOnto rule done cs = done.reverse ++ pieces rule cs := by
  have general : ∀ (done early : List Piece),
      piecesOnto rule (done ++ early) cs = early.reverse ++ piecesOnto rule done cs := by
    intro done early
    fun_induction piecesOnto rule done cs with
    | case1 done => simp [piecesOnto]
    | case2 done c cs ih =>
      rw [piecesOnto]
      simpa using ih
  simpa [pieces] using general [] done

@[simp] theorem pieces_nil (rule : KeywordRule) : pieces rule [] = [] := by
  simp [pieces, piecesOnto]

@[simp] theorem pieces_cons (rule : KeywordRule) (c : Char) (cs : List Char) :
    pieces rule (c :: cs) = Piece.first rule c cs :: pieces rule (Piece.rest rule c cs) := by
  rw [pieces, piecesOnto, piecesOnto_eq]
  rfl

/-- The pieces of a text are the text. -/
theorem flatten_pieces (rule : KeywordRule) (cs : List Char) :
    ((pieces rule cs).map Piece.text).flatten = cs := by
  match cs with
  | [] => simp
  | c :: cs =>
    have := Piece.length_rest_le rule c cs
    rw [pieces_cons, List.map_cons, List.flatten_cons, flatten_pieces rule (Piece.rest rule c cs),
      Piece.first_append_rest]
termination_by cs.length

end BoolWhile
