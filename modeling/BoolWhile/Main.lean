import BoolWhile.Command.Run

/-!
# The command

Asks the system for the files of a command line and for the standard input, runs the command on
what was found, and writes what the run leaves behind.
-/

namespace BoolWhile

/-- The number of an error and its reason. The number comes with either sign. -/
def errorDetails : IO.Error → Nat × String
  | .noFileOrDirectory _ code reason
  | .invalidArgument _ code reason
  | .permissionDenied _ code reason
  | .resourceExhausted _ code reason
  | .inappropriateType _ code reason
  | .noSuchThing _ code reason
  | .alreadyExists _ code reason
  | .interrupted _ code reason
  | .otherError code reason
  | .resourceBusy code reason
  | .resourceVanished code reason
  | .unsupportedOperation code reason
  | .hardwareFault code reason
  | .unsatisfiedConstraints code reason
  | .illegalOperation code reason
  | .protocolError code reason
  | .timeExpired code reason => (code.toInt32.toInt.natAbs, reason.capitalize)
  | .unexpectedEof | .userError _ => (5, "Input/output error")

/-- An error that is met while a file is opened names its path. -/
def SystemFault.ofOpening (path : String) (e : IO.Error) : SystemFault :=
  numbered (errorDetails e).1 (errorDetails e).2 path

/-- An error that is met while a file is read names no path. A folder can be opened here, so that
it is none is found out late. -/
def SystemFault.ofReading (path? : Option String) (e : IO.Error) : SystemFault :=
  numbered (errorDetails e).1 (errorDetails e).2 (if (errorDetails e).1 = 21 then path? else none)

/-- Asks for the file at a path. -/
def readFile (path : String) : IO Contents := do
  match ← (IO.FS.Handle.mk path .read).toBaseIO with
  | .error e => return .error (.ofOpening path e)
  | .ok handle => return (← handle.readBinToEnd.toBaseIO).mapError (.ofReading path)

/-- The bytes of a stream up to its end, behind those already read. -/
partial def readStream (stream : IO.FS.Stream) (done : ByteArray) : IO ByteArray := do
  let more ← stream.read 65536
  if more.isEmpty then return done else readStream stream (done ++ more)

/-- Reads the standard input up to its end. -/
def readStandard : IO Contents := do
  let stream ← IO.getStdin
  return (← (readStream stream .empty).toBaseIO).mapError (.ofReading none)

/-- Writes an output and ends with its exit code. -/
def Output.write (output : Output) : IO UInt32 := do
  (← IO.getStdout).putStr output.printed
  (← IO.getStderr).putStr output.errors
  return output.exitCode.toUInt32

end BoolWhile

open BoolWhile in
def main (arguments : List String) : IO UInt32 := do
  let (standards, paths) := (requestedFiles arguments).partition Input.isStandard
  let found ← paths.mapM fun path => return (path, ← readFile path)
  let standard ← standards.mapM fun _ => readStandard
  match run (.among found) standard arguments with
  | .ok output => output.write
  | .error fault =>
    (← IO.getStderr).putStrLn fault.message
    return 1
