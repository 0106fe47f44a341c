import BoolWhile.Diagnostic.Character
import BoolWhile.Token.OfText

/-!
# Sessions of reading a text

A session holds a text, its name and a keyword rule, all of which may be replaced, and what the
last reading found. A new keyword rule comes into force only when it is applied.
-/

namespace BoolWhile

/-- A text with what the last reading of it found. -/
structure Session where
  source : String
  filename : String
  /-- The keyword rule that was chosen last. -/
  chosen : KeywordRule
  /-- The keyword rule in force. -/
  inForce : KeywordRule
  position : Position
  tokens : List Token
  warnings : List Diagnostic
  deriving DecidableEq, Repr

/-- What can be done in a session. -/
inductive Session.Action
  | read
  | advance (text : String)
  | setSource (source : String)
  | setFilename (filename : String)
  | choose (rule : KeywordRule)
  | applyRule
  deriving DecidableEq, Repr

namespace Session

/-- A session before its first reading. -/
def start (rule : KeywordRule) (filename source : String) : Session :=
  ⟨source, filename, rule, rule, .start, [], []⟩

/-- Reads the whole text anew. -/
def read (s : Session) : Session :=
  let tokens := readTokens s.inForce s.filename s.source
  { s with position := endOfText s.source, tokens, warnings := characterWarnings tokens }

/-- Moves the position as if a text was read there. -/
def advance (s : Session) (text : String) : Session :=
  { s with position := s.position.advance text.toList }

/-- Does one thing. -/
def act (s : Session) : Action → Session
  | .read => s.read
  | .advance text => s.advance text
  | .setSource source => { s with source }
  | .setFilename filename => { s with filename }
  | .choose rule => { s with chosen := rule }
  | .applyRule => { s with inForce := s.chosen }

/-- Does several things in order. -/
def run (s : Session) (actions : List Action) : Session := actions.foldl act s

/-- Whether the last reading found an unknown character. -/
def hasWarnings (s : Session) : Bool := !s.warnings.isEmpty

end Session

end BoolWhile
