import BoolWhile.Reader
import BoolWhile.Recognition.Cursor

/-!
# Programs in files

The tokens of a file are those of its text, and are located in the file by its path.
-/

namespace BoolWhile

/-- Why the statements of a file cannot be counted. -/
inductive FileError
  | unreadable (fault : ReadFault)
  | rejected (e : SyntaxError)
  deriving DecidableEq, Repr

namespace Reader

/-- The tokens of the file at a path. -/
def readTokens (reader : Reader) (rule : KeywordRule) (path : String) :
    Except ReadFault (List Token) :=
  (reader.read path).map (BoolWhile.readTokens rule path)

/-- The number of statements outside all blocks of the program in the file at a path. -/
def countStatements (reader : Reader) (rule : KeywordRule) (path : String) :
    Except FileError Nat :=
  match reader.readTokens rule path with
  | .ok tokens => (BoolWhile.countStatements tokens).mapError .rejected
  | .error fault => .error (.unreadable fault)

end Reader

end BoolWhile
