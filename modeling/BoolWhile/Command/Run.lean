import BoolWhile.Command.Request
import BoolWhile.Command.Usage
import BoolWhile.Reader
import BoolWhile.Verdict

/-!
# Runs of the command

A run checks its files in order and does not stop at a file that cannot be read. Each file adds
to the output on its own; the exit code is the worst of its results.
-/

namespace BoolWhile

/-! ### Inputs and results -/

/-- A file of a run: its path, and its text or why it cannot be read. -/
structure Input where
  path : String
  content : Except ReadFault String

namespace Input

/-- Whether a path stands for the standard input. -/
def isStandard (path : String) : Bool := path = "-"

/-- The name of an input in messages. -/
def name (input : Input) : String := if isStandard input.path then "<stdin>" else input.path

end Input

/-- What is found about one input. -/
inductive Result
  | checked (verdict : Verdict)
  | unreadable (name message : String)

namespace Result

/-- Checks an input. -/
def ofInput (rule : KeywordRule) (input : Input) : Result :=
  match input.content with
  | .ok source => checked (.ofText rule input.name source)
  | .error fault => unreadable input.name fault.message

/-- What a result adds to the error output. -/
def errors : Result → String
  | checked verdict => verdict.warningText
  | unreadable name message => s!"Error reading {name}: {message}\n"

/-- What a result adds to the output. -/
def printed (format : OutputFormat) : Result → String
  | checked verdict => verdict.printed format
  | unreadable .. => ""

/-- A result as a record. -/
def record (format : OutputFormat) : Result → Json
  | checked verdict => verdict.record format.showTokens
  | unreadable name message =>
    .obj [("file", .str name), ("valid", .bool false), ("error", .obj [("message", .str message)])]

end Result

/-! ### Runs -/

/-- What a run leaves behind. -/
structure Output where
  exitCode : Nat
  printed : String
  errors : String
  deriving DecidableEq, Repr

/-- How far a run is: its exit code, what it has written, and the records of its results, the last
one first. -/
structure RunState where
  exitCode : Nat := 0
  printed : String := ""
  errors : String := ""
  records : List Json := []

namespace RunState

/-- Takes up a result. An input that cannot be read sets the exit code whatever came before it, and
a text that is no program does so only behind programs. -/
def add (format : OutputFormat) (s : RunState) (result : Result) : RunState where
  exitCode :=
    match result with
    | .unreadable .. => 2
    | .checked verdict => if !verdict.isValid && s.exitCode = 0 then 1 else s.exitCode
  printed := s.printed ++ result.printed format
  errors := s.errors ++ result.errors
  records := result.record format :: s.records

/-- Checks an input. -/
def check (settings : Settings) (s : RunState) (input : Input) : RunState :=
  s.add settings.format (.ofInput settings.rule input)

/-- Ends a run. Records are printed as one list. -/
def finish (format : OutputFormat) (s : RunState) : Output where
  exitCode := s.exitCode
  printed :=
    s.printed ++ if format.asJson then (Json.arr s.records.reverse).text ++ "\n" else ""
  errors := s.errors

end RunState

/-- Checks inputs in order. -/
def checkInputs (settings : Settings) (inputs : List Input) : Output :=
  (inputs.foldl (RunState.check settings) {}).finish settings.format

/-- The files that a request is about. -/
def Request.files : Request → List String
  | check _ files => files
  | _ => []

/-- Answers a request, given what is found in its files. -/
def Request.answer (inputs : List Input) : Request → Output
  | help => ⟨0, Usage.help, ""⟩
  | version => ⟨0, s!"boolexpr {Usage.version}\n", ""⟩
  | check settings _ => checkInputs settings inputs

/-- The output of a command with wrong arguments. -/
def UsageError.output (e : UsageError) : Output := ⟨2, "", Usage.errorText e⟩

/-! ### Runs of a command line -/

/-- Finds inputs. The readings of the standard input are taken one after the other; behind the last
of them nothing is left in it. -/
def Reader.load (reader : Reader) : (standard : List Contents) → (files : List String) → List Input
  | _, [] => []
  | standard, path :: paths =>
    if Input.isStandard path then
      ⟨path, (standard.headD (.ok .empty)).text⟩ :: load reader standard.tail paths
    else ⟨path, reader.read path⟩ :: load reader standard paths

/-- Runs the command. A path that holds the null character leaves no output. -/
def run (reader : Reader) (standard : List Contents) (arguments : List String) :
    Except ReadFault Output :=
  match Request.ofArguments arguments with
  | .error e => .ok e.output
  | .ok request =>
    if request.files.any holdsNull then .error .nullInPath
    else .ok (request.answer (reader.load standard request.files))

/-- The files that arguments ask for. -/
def requestedFiles (arguments : List String) : List String :=
  match Request.ofArguments arguments with
  | .ok request => request.files
  | .error _ => []

end BoolWhile
