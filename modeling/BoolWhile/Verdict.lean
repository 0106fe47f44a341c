import BoolWhile.Recognition.Cursor
import BoolWhile.Statistics

/-!
# Verdicts on texts

A verdict is what is found about one text: its tokens, and whether they are a program. It is
shown in three ways, which agree on what was found: the warnings, the lines for a reader, and a
record for other programs.
-/

namespace BoolWhile

/-- What is found about one text. -/
structure Verdict where
  filename : String
  tokens : List Token
  /-- The number of statements outside all blocks, or the error. -/
  outcome : Except SyntaxError Nat

/-- What a run shows of each text. -/
structure OutputFormat where
  showTokens : Bool := false
  asJson : Bool := false
  deriving DecidableEq, Repr

namespace Verdict

/-- The verdict on a text. -/
def ofText (rule : KeywordRule) (filename source : String) : Verdict :=
  let tokens := readTokens rule filename source
  ⟨filename, tokens, countStatements tokens⟩

/-- Whether the text is a program. -/
def isValid (v : Verdict) : Bool := v.outcome.isOk

/-- The statistics of the tokens. -/
def statistics (v : Verdict) : Statistics := .ofTokens v.tokens

/-! ### For a reader -/

/-- The warnings about characters. -/
def warningText (v : Verdict) : String :=
  String.join ((characterWarnings v.tokens).map Diagnostic.text)

/-- One line for each token. -/
def tokenText (v : Verdict) : String :=
  String.join (v.tokens.map fun t => s!"{t.location.display}: {t.display}\n")

/-- The verdict, with the statistics of a program or the error of another text. -/
def verdictText (v : Verdict) : String :=
  match v.outcome with
  | .ok statements =>
    s!"{v.filename}: the program is valid ({statements} statement(s)).\n" ++
      v.statistics.report ++ "\n"
  | .error e => s!"{v.filename}: the program is NOT valid.\n" ++ e.text

/-- What a run prints about a text; records are printed together at the end of the run. -/
def printed (v : Verdict) (format : OutputFormat) : String :=
  if format.asJson then ""
  else (if format.showTokens then v.tokenText else "") ++ v.verdictText

/-! ### For other programs -/

/-- A token as a record. -/
def tokenRecord (t : Token) : Json :=
  .obj
    [("type", .str t.kind.name), ("lexeme", .str t.lexeme), ("line", .int t.location.line),
     ("column", .int t.location.column)]

/-- An error as a record. -/
def errorRecord (e : SyntaxError) : Json :=
  .obj
    [("code", .ofText? e.diagnostic.code),
     ("description", .ofText? e.codeMeaning?),
     ("message", .str e.diagnostic.message),
     ("expected", .str e.expected),
     ("found", .ofText? (e.token.map Token.lexeme))]

/-- The fields of a record that hold the outcome. -/
def outcomeFields (v : Verdict) : List (String × Json) :=
  match v.outcome with
  | .ok statements =>
    [("valid", .bool true), ("statements", .int statements),
     ("statistics", v.statistics.toJson)]
  | .error e => [("valid", .bool false), ("error", errorRecord e)]

/-- The verdict as a record. -/
def record (v : Verdict) (showTokens : Bool) : Json :=
  .obj
    (("file", .str v.filename) ::
      (if showTokens then [("tokens", .arr (v.tokens.map tokenRecord))] else []) ++
      v.outcomeFields)

end Verdict

end BoolWhile
