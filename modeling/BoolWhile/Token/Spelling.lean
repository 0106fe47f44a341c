import BoolWhile.Token.Kind

/-!
# Spellings of operators and keywords

An operator, a delimiter and a keyword have one spelling each. Where a text begins with an
operator, the first entry of the table that it begins with is meant, so the two-character
operators stand before the one-character operators that begin them.
-/

namespace BoolWhile

/-- A table of spellings. -/
abbrev Spellings := List (String × Kind)

namespace Spellings

/-- The keywords. -/
def keywords : Spellings :=
  [("true", .trueWord), ("false", .falseWord), ("if", .ifWord), ("while", .whileWord)]

/-- The operators and delimiters. -/
def operators : Spellings :=
  [("==", .equal), ("!=", .notEqual), ("<=", .lessEqual), (">=", .greaterEqual),
   ("<", .lessThan), (">", .greaterThan), ("&&", .logicalAnd), ("||", .logicalOr),
   ("!", .logicalNot), ("(", .leftParen), (")", .rightParen), ("\x7b", .leftBrace),
   ("\x7d", .rightBrace)]

end Spellings

end BoolWhile
