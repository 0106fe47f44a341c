import BoolWhile.Piece
import BoolWhile.Token.Basic

/-!
# The tokens of a text

Each piece of a text that is not a run of blanks becomes a token, with the place where it begins.
-/

namespace BoolWhile

/-! ### Places of pieces -/

/-- Pieces with the positions they begin at, the first at `p`, behind those already `done` in
reverse. -/
def locateOnto (done : List (Position × Piece)) (p : Position) :
    List Piece → List (Position × Piece)
  | [] => done.reverse
  | piece :: rest => locateOnto ((p, piece) :: done) (p.advance piece.text) rest

/-- Pieces with the positions they begin at, the first at `p`. -/
def locate (p : Position) (parts : List Piece) : List (Position × Piece) := locateOnto [] p parts

theorem locateOnto_eq (done : List (Position × Piece)) (p : Position) (parts : List Piece) :
    locateOnto done p parts = done.reverse ++ locate p parts := by
  unfold locate
  induction parts generalizing done p with
  | nil => simp [locateOnto]
  | cons piece rest ih =>
    rw [locateOnto, ih, locateOnto, ih [_]]
    simp

@[simp] theorem locate_nil (p : Position) : locate p [] = [] := rfl

@[simp] theorem locate_cons (p : Position) (piece : Piece) (rest : List Piece) :
    locate p (piece :: rest) = (p, piece) :: locate (p.advance piece.text) rest := by
  rw [locate, locateOnto, locateOnto_eq]
  rfl

/-! ### Tokens -/

/-- The token that a piece of a file is; a run of blanks is none. -/
def Token.ofPiece? (filename : String) (p : Position) (piece : Piece) : Option Token :=
  piece.kind?.map fun kind => ⟨kind, String.ofList piece.text, p.inFile filename⟩

/-- The tokens of a text that stands at a position of a file. -/
def tokensFrom (rule : KeywordRule) (filename : String) (p : Position) (cs : List Char) :
    List Token :=
  (locate p (pieces rule cs)).filterMap fun (p, piece) => Token.ofPiece? filename p piece

/-- The name of a text that stands in no file. -/
def unnamed : String := "<string>"

/-- The tokens of the whole text of a file. -/
def readTokens (rule : KeywordRule) (filename source : String) : List Token :=
  tokensFrom rule filename .start source.toList

/-- The place after the last character of a text. -/
def endOfText (source : String) : Position := Position.start.advance source.toList

@[simp] theorem tokensFrom_nil (rule : KeywordRule) (filename : String) (p : Position) :
    tokensFrom rule filename p [] = [] := by
  simp [tokensFrom]

theorem tokensFrom_cons (rule : KeywordRule) (filename : String) (p : Position) (c : Char)
    (cs : List Char) :
    tokensFrom rule filename p (c :: cs) =
      (Token.ofPiece? filename p (Piece.first rule c cs)).toList ++
        tokensFrom rule filename (p.advance (Piece.first rule c cs).text)
          (Piece.rest rule c cs) := by
  simp only [tokensFrom, pieces_cons, locate_cons, List.filterMap_cons]
  cases Token.ofPiece? filename p (Piece.first rule c cs) <;> rfl

end BoolWhile
