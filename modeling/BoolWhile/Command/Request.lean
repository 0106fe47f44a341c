import BoolWhile.Command.Argument
import BoolWhile.Verdict

/-!
# Requests

The arguments of a command are sorted into files and options first; everything behind a double
dash is a file. Then they are followed from left to right. Files have to stand together: those
behind an option that stands behind a file are not taken. Asking for help or for the version ends
the reading of the arguments at once.
-/

namespace BoolWhile

/-- What is to be done with the files. -/
structure Settings where
  rule : KeywordRule := .anywhere
  format : OutputFormat := {}
  deriving DecidableEq, Repr

/-- What a command asks for. -/
inductive Request
  | help
  | version
  | check (settings : Settings) (files : List String)
  deriving DecidableEq, Repr

/-- The files found so far. They have to stand together, so no file is taken once something else
stands behind one. -/
inductive FileRun
  | notBegun
  | begun (files : List String)
  | ended (files : List String)
  deriving DecidableEq, Repr

namespace FileRun

/-- Something that is no file stands behind the files. -/
def stop : FileRun → FileRun
  | begun files => ended files
  | run => run

/-- The files of a run. -/
def files : FileRun → List String
  | notBegun => []
  | begun files | ended files => files

end FileRun

/-- How far the arguments of a command are followed. -/
structure CommandState where
  settings : Settings := {}
  run : FileRun := .notBegun
  /-- The arguments that are not recognized. -/
  extras : List String := []
  deriving DecidableEq, Repr

namespace CommandState

/-- Takes files that stand next to each other. -/
def addFiles (s : CommandState) (names : List String) : CommandState :=
  match s.run with
  | .notBegun => { s with run := .begun names }
  | .begun files => { s with run := .begun (files ++ names) }
  | .ended _ => { s with extras := s.extras ++ names }

/-- Takes an argument that is not recognized. -/
def addUnknown (s : CommandState) (argument : String) : CommandState :=
  { s with run := s.run.stop, extras := s.extras ++ [argument] }

/-- Changes the settings for an option. -/
def change (s : CommandState) (f : Settings → Settings) : CommandState :=
  { s with run := s.run.stop, settings := f s.settings }

/-- Takes the double dash and the arguments behind it. The dash is dropped if a file may stand
there and one stands on either side of it. -/
def addDashed (s : CommandState) (names : List String) : CommandState :=
  match s.run, names with
  | .notBegun, [] | .ended _, _ => { s with extras := s.extras ++ "--" :: names }
  | _, _ => s.addFiles names

/-- Ends the reading of the arguments. -/
def finish (s : CommandState) : Except UsageError Request :=
  if s.run.files.isEmpty then .error .filesRequired
  else if s.extras.isEmpty then .ok (.check s.settings s.run.files)
  else .error (.unrecognized s.extras)

/-- Follows the arguments before the double dash, then takes those behind it. -/
def follow (s : CommandState) (dashed : Option (List String)) :
    List Argument → Except UsageError Request
  | [] => (dashed.elim s s.addDashed).finish
  | .file name :: rest => follow (s.addFiles [name]) dashed rest
  | .unknown argument :: rest => follow (s.addUnknown argument) dashed rest
  | .option flag (some value) :: _ => .error (.ignoredValue flag value)
  | .option flag none :: rest =>
    match flag with
    | .help => .ok .help
    | .version => .ok .version
    | .strictKeywords => follow (s.change ({ · with rule := .wholeWord })) dashed rest
    | .tokens => follow (s.change fun t => { t with format.showTokens := true }) dashed rest
    | .json => follow (s.change fun t => { t with format.asJson := true }) dashed rest

end CommandState

/-- What the arguments of a command ask for. -/
def Request.ofArguments (arguments : List String) : Except UsageError Request := do
  let sorted ← (arguments.takeWhile (· ≠ "--")).mapM Argument.ofText
  let dashed :=
    match arguments.dropWhile (· ≠ "--") with
    | [] => none
    | _ :: names => some names
  CommandState.follow {} dashed sorted

end BoolWhile
