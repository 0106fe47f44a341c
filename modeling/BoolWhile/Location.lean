import BoolWhile.Position
import BoolWhile.Text.Quoted

/-!
# Locations in a file

A location names a file and a place in it. The numbers of a location that is made by hand are
unrestricted; those of a token that was read from a text come from a `Position`.
-/

namespace BoolWhile

/-- A place in a named file. -/
structure Location where
  filename : String
  line : Int
  column : Int
  offset : Int
  deriving DecidableEq, Repr

namespace Location

/-- The file, line and column, as messages show them. -/
def display (l : Location) : String := s!"{l.filename}:{l.line}:{l.column}"

/-- Every field of a location, the file name quoted. -/
def debug (l : Location) : String :=
  s!"SourceLocation({Text.quoted l.filename}, {l.line}, {l.column}, {l.offset})"

/-- The place `width` characters further on the same line. -/
def shift (l : Location) (width : Nat) : Location :=
  ⟨l.filename, l.line, l.column + width, l.offset + width⟩

end Location

/-- A position as a place in a file. -/
def Position.inFile (p : Position) (filename : String) : Location :=
  ⟨filename, p.line, p.column, p.offset⟩

end BoolWhile
