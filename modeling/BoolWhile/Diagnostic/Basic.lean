import BoolWhile.Location

/-!
# Diagnostics

Warnings about characters and errors about the form of a program are reported in one shape: a
headline, the place, an explanation and a list of suggestions, each on lines of their own.
-/

namespace BoolWhile

/-- A warning or an error, as it is reported. -/
structure Diagnostic where
  message : String
  location : Option Location
  /-- The word before the message, such as `error` or `warning`. -/
  severity : String
  code : Option String
  help : Option String
  suggestions : Option (List String)
  deriving DecidableEq, Repr

namespace Diagnostic

/-- A line of a report, or nothing for an absent text. -/
def optionalLine (label : String) : Option String → String
  | none => ""
  | some s => if s.isEmpty then "" else label ++ s ++ "\n"

/-- The lines that list suggestions; there are none without suggestions. -/
def suggestionLines (suggestions : List String) : String :=
  if suggestions.isEmpty then ""
  else "  suggestions:\n" ++ String.join (suggestions.map fun s => s!"    - {s}\n")

/-- A diagnostic as it is reported. -/
def text (d : Diagnostic) : String :=
  s!"{d.severity.toUpper}: {d.message}\n" ++
    (d.location.elim "" fun l => s!"  --> {l.display}\n") ++
    optionalLine "  help: " d.help ++
    suggestionLines (d.suggestions.getD [])

/-- Every field of a diagnostic. -/
def debug (d : Diagnostic) : String :=
  s!"Diagnostic(message={Text.quoted d.message}, " ++
    s!"location={d.location.elim Text.absent Location.debug}, " ++
    s!"severity={Text.quoted d.severity}, code={Text.quotedOrAbsent d.code}, " ++
    s!"help_text={Text.quotedOrAbsent d.help}, " ++
    s!"suggestions={d.suggestions.elim Text.absent Text.quotedList})"

end Diagnostic

end BoolWhile
