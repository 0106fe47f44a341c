import BoolWhile.Diagnostic.Basic
import BoolWhile.Token.Basic

/-!
# Warnings about characters

A character that belongs to no token of the language does not stop the reading of a text. It
becomes a token of its own, with a warning.
-/

namespace BoolWhile

/-- What may be meant by a text that is no token of the language. -/
def operatorSuggestions : String → List String
  | "=" => ["Use '==' for comparison"]
  | "&" => ["Use '&&' for logical and"]
  | "|" => ["Use '||' for logical or"]
  | "[" => ["Use '(' to group an expression"]
  | "]" => ["Use ')' to close a group"]
  | _ => []

/-- The codes of warnings about characters, with what they mean. -/
def characterCodes : List (String × String) := [("L001", "Unrecognized character")]

/-- A text of `length` characters was given where one character that is not printable is named by
its code point. -/
structure NotOneCharacter where
  length : Nat
  deriving DecidableEq, Repr

/-- The message that one character was asked for. -/
def NotOneCharacter.message (e : NotOneCharacter) : String :=
  s!"ord() expected a character, but string of length {e.length} found"

namespace Diagnostic

/-- A diagnostic that does not stop anything. -/
def warning (message : String) (location : Option Location) (code help : Option String)
    (suggestions : Option (List String)) : Diagnostic :=
  ⟨message, location, "warning", code, help, suggestions⟩

/-- Explains why a text is warned about. A text that is not printable is named by the code point
of its only character. -/
def characterHelp (s : String) : Except NotOneCharacter String :=
  if Text.allPrintable s then
    .ok s!"The character '{s}' is not part of the language and will be rejected by the parser."
  else
    match s.toList with
    | [c] =>
      .ok ("Non-printable character (Unicode: U+" ++ String.ofList (Text.codePointDigits c) ++
        ") is not part of the language.")
    | cs => .error ⟨cs.length⟩

/-- The warning about a text that is no token of the language. -/
def unrecognized (s : String) (location : Option Location) :
    Except NotOneCharacter Diagnostic := do
  let help ← characterHelp s
  return warning s!"Unrecognized character: {Text.quoted s}" location "L001" help
    (operatorSuggestions s)

/-- A single character can always be warned about. -/
theorem unrecognized_singleton (c : Char) (location : Option Location) :
    ∃ d, unrecognized (String.singleton c) location = .ok d := by
  have h : ∃ help, characterHelp (String.singleton c) = .ok help := by
    unfold characterHelp
    split
    · exact ⟨_, rfl⟩
    · simp
  obtain ⟨help, h⟩ := h
  exact ⟨_, by rw [unrecognized, h]; rfl⟩

end Diagnostic

/-- The warnings about the tokens of a text: one for each unknown token. -/
def characterWarnings (tokens : List Token) : List Diagnostic :=
  tokens.filterMap fun t =>
    if t.kind = .unknown then (Diagnostic.unrecognized t.lexeme t.location).toOption else none

end BoolWhile
