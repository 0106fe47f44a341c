import BoolWhile.Text.LineEnd
import BoolWhile.Text.Quoted
import BoolWhile.Text.Utf8

/-!
# Files

Where a path leads is for the system to know. A reader asks it for the bytes of files, and gets
them or an error of the system. Here the bytes are read as a text.
-/

namespace BoolWhile

/-! ### Errors of the system -/

/-- An error of the system, known by what it says. -/
structure SystemFault where
  message : String
  deriving DecidableEq, Repr

namespace SystemFault

/-- An error with its number, and with the path that it is about if it names one. -/
def numbered (code : Nat) (reason : String) (path? : Option String) : SystemFault :=
  ⟨s!"[Errno {code}] {reason}" ++ path?.elim "" fun path => s!": {Text.quoted path}"⟩

/-- There is no file at a path. -/
def missing (path : String) : SystemFault := numbered 2 "No such file or directory" path

end SystemFault

/-- What the system gives for a file: its bytes, or an error. -/
abbrev Contents := Except SystemFault ByteArray

/-! ### Texts of files -/

/-- Why a file cannot be read. -/
inductive ReadFault
  /-- The path holds the null character, so it names nothing at all. -/
  | nullInPath
  | system (fault : SystemFault)
  | undecodable (fault : Text.Utf8.Fault)
  deriving DecidableEq, Repr

/-- The message of a fault. -/
def ReadFault.message : ReadFault → String
  | nullInPath => "embedded null byte"
  | system fault => fault.message
  | undecodable fault => fault.message

/-- The text that the bytes of a file are read as: their characters, with unified line ends. -/
def readBytes (bytes : ByteArray) : Except ReadFault String :=
  match Text.Utf8.decode bytes with
  | .ok text => .ok (String.ofList (Text.unifyLineEnds text.toList))
  | .error fault => .error (.undecodable fault)

/-- The text of a file. -/
def Contents.text : Contents → Except ReadFault String
  | .ok bytes => readBytes bytes
  | .error fault => .error (.system fault)

/-! ### Readers -/

/-- Asks the system for the file at a path. -/
abbrev Reader := String → Contents

/-- Whether a path holds the null character. -/
def holdsNull (path : String) : Bool := path.toList.contains '\x00'

namespace Reader

/-- The text of the file at a path. The system is not asked for a path with the null character. -/
def read (reader : Reader) (path : String) : Except ReadFault String :=
  if holdsNull path then .error .nullInPath else (reader path).text

/-- Gives what was found under some paths, and nothing else. -/
def among (found : List (String × Contents)) : Reader := fun path =>
  (found.lookup path).getD (.error (.missing path))

end Reader

end BoolWhile
