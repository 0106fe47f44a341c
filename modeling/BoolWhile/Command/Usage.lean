import BoolWhile.Command.Argument

/-!
# Texts about the command itself
-/

namespace BoolWhile

namespace Usage

/-- The version of the command. -/
def version : String := "0.1.0"

/-- How the command is called. -/
def synopsis : String :=
  "usage: boolexpr [-h] [--strict-keywords] [--tokens] [--json] [--version]\n" ++
  "                FILE [FILE ...]\n"

/-- What the command does, with its options and examples. -/
def help : String :=
  synopsis ++
  "\n" ++
  "Check boolean-expression programs and report token statistics\n" ++
  "\n" ++
  "positional arguments:\n" ++
  "  FILE               Program files to check ('-' for standard input)\n" ++
  "\n" ++
  "options:\n" ++
  "  -h, --help         show this help message and exit\n" ++
  "  --strict-keywords  Only match keywords at word boundaries (whiletrue is an\n" ++
  "                     identifier)\n" ++
  "  --tokens           Print the token list of each program\n" ++
  "  --json             Output results in JSON format\n" ++
  "  --version          show program's version number and exit\n" ++
  "\n" ++
  "Examples:\n" ++
  "    boolexpr program.txt                   # Check one file\n" ++
  "    boolexpr a.txt b.txt --json            # Machine readable results\n" ++
  "    echo 'while(x<5)\x7by\x7d' | boolexpr -      # Read from standard input\n" ++
  "        \n"

/-- The report of a usage error. -/
def errorText (e : UsageError) : String := synopsis ++ s!"boolexpr: error: {e.message}\n"

end Usage

end BoolWhile
