import BoolWhile.Piece
import BoolWhile.Text.Digit
import BoolWhile.Text.Quoted

/-!
# Arguments of the command line

An argument is a file or an option. Whether it is one or the other is decided for each argument on
its own: an option begins with a dash and may be cut short as long as no other option begins in the
same way. A lone dash and a negative number are files.
-/

namespace BoolWhile

/-! ### Options -/

/-- An option of the command; none of them takes a value. -/
inductive Flag
  | help
  | strictKeywords
  | tokens
  | json
  | version
  deriving DecidableEq, Repr

/-- The spellings of the options. -/
def Flag.spellings : List (String × Flag) :=
  [("-h", help), ("--help", help), ("--strict-keywords", strictKeywords), ("--tokens", tokens),
   ("--json", json), ("--version", version)]

/-- The name of an option in messages: all its spellings. -/
def Flag.name (flag : Flag) : String :=
  "/".intercalate ((Flag.spellings.filter (·.2 = flag)).map Prod.fst)

/-- What is wrong with the arguments of a command. -/
inductive UsageError
  | filesRequired
  | unrecognized (arguments : List String)
  | ignoredValue (flag : Flag) (value : String)
  | ambiguous (argument : String) (spellings : List String)
  deriving DecidableEq, Repr

/-- The message of a usage error. -/
def UsageError.message : UsageError → String
  | filesRequired => "the following arguments are required: FILE"
  | unrecognized arguments => "unrecognized arguments: " ++ " ".intercalate arguments
  | ignoredValue flag value =>
    s!"argument {flag.name}: ignored explicit argument {Text.quoted value}"
  | ambiguous argument spellings =>
    s!"ambiguous option: {argument} could match " ++ ", ".intercalate spellings

/-! ### Single arguments -/

/-- What an argument is. An option takes no value, but one may be written behind it. -/
inductive Argument
  | file (name : String)
  | option (flag : Flag) (value? : Option String)
  | unknown (argument : String)
  deriving DecidableEq, Repr

namespace Argument

/-- Splits an argument at the first equals sign. -/
def splitValue (cs : List Char) : List Char × Option (List Char) :=
  match cs.dropWhile (· ≠ '=') with
  | [] => (cs, none)
  | _ :: value => (cs.takeWhile (· ≠ '='), some value)

/-- Whether an argument is a negative number: a dash and digits, with a point before the last of
them or without. A line end may follow. -/
def isNegativeNumber (cs : List Char) : Bool :=
  let cs := if cs.getLast? = some '\n' then cs.dropLast else cs
  match cs with
  | '-' :: cs =>
    match cs.dropWhile Text.isDecimalDigit with
    | [] => !cs.isEmpty
    | '.' :: places => !places.isEmpty && places.all Text.isDecimalDigit
    | _ => false
  | _ => false

/-- An argument that begins with one dash and asks for help by its first letter. The letter may be
repeated; everything else behind it is a value. -/
def helpLetters (letters : List Char) : Argument :=
  match letters, letters.dropWhile (· = 'h') with
  | _ :: _, [] => option .help none
  | _, value => option .help (String.ofList value)

/-- What an argument is that begins with a dash and is no spelling of an option. -/
def ofDashed (argument : String) : Except UsageError Argument :=
  match argument.toList with
  | '-' :: '-' :: _ =>
    let (start, value) := splitValue argument.toList
    match Flag.spellings.filter fun entry => start.isPrefixOf entry.1.toList with
    | [] => .ok other
    | [(_, flag)] => .ok (option flag (value.map String.ofList))
    | matching => .error (.ambiguous argument (matching.map Prod.fst))
  | '-' :: 'h' :: letters => .ok (helpLetters letters)
  | _ => .ok other
where
  other : Argument :=
    if isNegativeNumber argument.toList || argument.toList.contains ' ' then file argument
    else unknown argument

/-- What an argument is. -/
def ofText (argument : String) : Except UsageError Argument :=
  if argument.toList.head? ≠ some '-' ∨ argument = "-" then .ok (file argument)
  else
    match Flag.spellings.lookup argument with
    | some flag => .ok (option flag none)
    | none =>
      match splitValue argument.toList with
      | (start, some value) =>
        match Flag.spellings.lookup (String.ofList start) with
        | some flag => .ok (ofSpelling start flag value)
        | none => ofDashed argument
      | _ => ofDashed argument
where
  ofSpelling (start : List Char) (flag : Flag) (value : List Char) : Argument :=
    if start = ['-', 'h'] then helpLetters value else option flag (String.ofList value)

end Argument

end BoolWhile
