import BoolWhile.Session

/-!
# Scanning a text step by step

The reading of a text as a loop that takes up one match after the other, with everything in it that
may go wrong: one of several alternatives has to match at the position, the match has to be longer
than nothing, a spelling has to stand in its table, and a text can be warned about only if it is
printable or one character long.
-/

namespace BoolWhile

/-- What stops a scan. -/
inductive ScanFault
  | noMatch
  | emptyMatch
  | noSpelling (lexeme : String)
  | noWarning (e : NotOneCharacter)
  deriving DecidableEq, Repr

/-- The alternatives for what stands at a position. -/
inductive PieceClass
  | operator
  | keyword
  | name
  | number
  | blanks
  | unknown
  deriving DecidableEq, Repr

namespace PieceClass

/-! ### Matches -/

/-- The alternatives in the order in which they are tried. -/
def all : List PieceClass := [operator, keyword, name, number, blanks, unknown]

/-- A run of characters of which the first one is of a class of its own. -/
def run? (isFirst inRun : Char → Bool) : List Char → Option (List Char)
  | [] => none
  | c :: cs => if isFirst c then some (c :: cs.takeWhile inRun) else none

/-- What an alternative matches of a text. -/
def match? (rule : KeywordRule) (cs : List Char) : PieceClass → Option (List Char)
  | operator => (Piece.operator? cs).map fun entry => entry.1.toList
  | keyword => (Piece.keyword? rule cs).map fun entry => entry.1.toList
  | name => run? Text.isLetter Text.isWordChar cs
  | number => run? Text.isDigit Text.isDigit cs
  | blanks => run? Text.isBlank Text.isBlank cs
  | unknown => cs.head?.map ([·])

/-- The first alternative that matches, and what it matches. -/
def first? (rule : KeywordRule) (cs : List Char) : Option (PieceClass × List Char) :=
  all.findSome? fun alternative => (alternative.match? rule cs).map (alternative, ·)

/-! ### Tokens -/

/-- The kind that a table of spellings has for a lexeme. -/
def lookUp (spellings : Spellings) (lexeme : String) : Except ScanFault Kind :=
  match spellings.lookup lexeme with
  | some kind => .ok kind
  | none => .error (.noSpelling lexeme)

/-- The warning about a lexeme. -/
def warn (lexeme : String) (location : Location) : Except ScanFault Diagnostic :=
  (Diagnostic.unrecognized lexeme location).mapError .noWarning

/-- The token that a lexeme is, unless it is a run of blanks, and the warning about it. -/
def found (lexeme : String) (location : Location) :
    PieceClass → Except ScanFault (List Token × List Diagnostic)
  | operator =>
    (lookUp Spellings.operators lexeme).map fun kind => ([⟨kind, lexeme, location⟩], [])
  | keyword =>
    (lookUp Spellings.keywords lexeme).map fun kind => ([⟨kind, lexeme, location⟩], [])
  | name => .ok ([⟨.identifier, lexeme, location⟩], [])
  | number => .ok ([⟨.number, lexeme, location⟩], [])
  | blanks => .ok ([], [])
  | unknown => (warn lexeme location).map fun d => ([⟨.unknown, lexeme, location⟩], [d])

end PieceClass

namespace Session

/-! ### The loop -/

/-- Forgets what the last reading found. -/
def rewind (s : Session) : Session := { s with position := .start, tokens := [], warnings := [] }

/-- Takes up what is matched at the position. -/
def scanPiece (s : Session) : Except ScanFault Session :=
  match PieceClass.first? s.inForce (s.source.toList.drop s.position.offset) with
  | none => .error .noMatch
  | some (alternative, text) =>
    (alternative.found (String.ofList text) (s.position.inFile s.filename)).map fun found =>
      { s with
        position := s.position.advance text
        tokens := s.tokens ++ found.1
        warnings := s.warnings ++ found.2 }

theorem source_of_scanPiece {s t : Session} (h : s.scanPiece = .ok t) : t.source = s.source := by
  rw [scanPiece] at h
  split at h
  · cases h
  · rename_i alternative text _
    cases hfound : alternative.found (String.ofList text) (s.position.inFile s.filename) with
    | error fault =>
      rw [hfound] at h
      cases h
    | ok found =>
      rw [hfound] at h
      obtain rfl := Except.ok.inj h
      rfl

/-- Scans on from the position to the end of the text. -/
def scan (s : Session) : Except ScanFault Session :=
  if s.position.offset < s.source.toList.length then
    match _h : s.scanPiece with
    | .error fault => .error fault
    | .ok t => if t.position.offset ≤ s.position.offset then .error .emptyMatch else t.scan
  else .ok s
termination_by s.source.toList.length - s.position.offset
decreasing_by
  rw [source_of_scanPiece _h]
  omega

end Session

end BoolWhile
