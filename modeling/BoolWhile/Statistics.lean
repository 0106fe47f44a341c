import BoolWhile.NameSet
import BoolWhile.Json
import BoolWhile.Text.Digit
import BoolWhile.Text.Letter
import BoolWhile.Token.Basic

/-!
# Statistics of a token list

Every token adds to the statistics of its list on its own: a name of one letter, a number of one
digit, a comparison operator or a `while`. The statistics of a list are the sum over its tokens.
-/

namespace BoolWhile

/-- How often tokens of four sorts occur. -/
structure Statistics where
  /-- The distinct names of one letter. -/
  names : NameSet := .empty
  /-- The numbers of one digit, each time they occur. -/
  digits : Int := 0
  comparisons : Int := 0
  loops : Int := 0
  deriving DecidableEq

namespace Statistics

/-- What one token adds. -/
def ofToken (t : Token) : Statistics :=
  match t.kind, t.lexeme.toList with
  | .identifier, [c] => if Text.isAnyLetter c then { names := .ofList [t.lexeme] } else {}
  | .number, [c] => if Text.hasDigitValue c then { digits := 1 } else {}
  | .whileWord, _ => { loops := 1 }
  | k, _ => if k.isRelational then { comparisons := 1 } else {}

/-- Two statistics together. -/
def add (s t : Statistics) : Statistics :=
  ⟨s.names.union t.names, s.digits + t.digits, s.comparisons + t.comparisons,
    s.loops + t.loops⟩

/-- The statistics of a token list. -/
def ofTokens (tokens : List Token) : Statistics :=
  tokens.foldl (fun s t => s.add (ofToken t)) {}

/-- The number of distinct names of one letter. -/
def nameCount (s : Statistics) : Nat := s.names.size

/-- The statistics as a record. -/
def toJson (s : Statistics) : Json :=
  .obj
    [("variables", .arr (s.names.toList.map .str)),
     ("variable_count", .int s.nameCount),
     ("single_digit_constants", .int s.digits),
     ("comparison_operators", .int s.comparisons),
     ("while_count", .int s.loops)]

/-- The lines that report statistics, without a last line end. -/
def report (s : Statistics) : String :=
  "\n".intercalate
    ["===== STATISTICS =====",
     s!"Distinct variables (single letter): {s.nameCount}",
     s!"Single-digit constants: {s.digits}",
     s!"Comparison operators: {s.comparisons}",
     s!"'while' statements: {s.loops}",
     "======================"]

end Statistics

end BoolWhile
