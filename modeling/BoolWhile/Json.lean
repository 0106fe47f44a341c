import BoolWhile.Text.Hex

/-!
# Records as JSON

Results are written in the JSON format with an indentation of two blanks. The fields of a record
keep their order, and everything outside printable ASCII is escaped.
-/

namespace BoolWhile

/-- A JSON value. The fields of an object are in the order they are written in. -/
inductive Json
  | null
  | bool (b : Bool)
  | int (n : Int)
  | str (s : String)
  | arr (items : List Json)
  | obj (fields : List (String × Json))

namespace Json

/-- The absent text is `null`. -/
def ofText? : Option String → Json
  | none => null
  | some s => str s

/-! ### Texts -/

/-- One UTF-16 unit as an escape. -/
def escapeUnit (n : Nat) : List Char := '\\' :: 'u' :: Text.hexDigits 4 n

/-- One character inside a JSON text. Above the first plane it is a pair of surrogates. -/
def escape (c : Char) : List Char :=
  if c = '"' ∨ c = '\\' then ['\\', c]
  else if c = '\n' then ['\\', 'n']
  else if c = '\r' then ['\\', 'r']
  else if c = '\t' then ['\\', 't']
  else if c = '\x08' then ['\\', 'b']
  else if c = '\x0c' then ['\\', 'f']
  else if 0x20 ≤ c.toNat ∧ c.toNat ≤ 0x7E then [c]
  else if c.toNat < 0x10000 then escapeUnit c.toNat
  else
    let n := c.toNat - 0x10000
    escapeUnit (0xD800 + n / 0x400) ++ escapeUnit (0xDC00 + n % 0x400)

/-- A text between double quotes. -/
def quoted (s : String) : String := String.ofList ('"' :: s.toList.flatMap escape ++ ['"'])

/-! ### Values -/

/-- Entries between two brackets, each on a line of its own; without entries the brackets stand
together. -/
def block (opening closing : String) (depth : Nat) (entries : List String) : String :=
  let newLine (depth : Nat) := String.ofList ('\n' :: List.replicate (2 * depth) ' ')
  if entries.isEmpty then opening ++ closing
  else opening ++ newLine (depth + 1) ++ ("," ++ newLine (depth + 1)).intercalate entries ++
    newLine depth ++ closing

/-- A value that begins inside `depth` brackets. -/
def render (depth : Nat) : Json → String
  | null => "null"
  | bool true => "true"
  | bool false => "false"
  | int n => toString n
  | str s => quoted s
  | arr items => block "[" "]" depth (items.attach.map fun ⟨v, _⟩ => v.render (depth + 1))
  | obj fields =>
    block "\x7b" "\x7d" depth
      (fields.attach.map fun ⟨f, _⟩ => quoted f.1 ++ ": " ++ f.2.render (depth + 1))
termination_by v => sizeOf v
decreasing_by
  · have := List.sizeOf_lt_of_mem ‹v ∈ items›
    simp only [arr.sizeOf_spec]
    omega
  · have := List.sizeOf_lt_of_mem ‹f ∈ fields›
    have : sizeOf f = 1 + sizeOf f.1 + sizeOf f.2 := rfl
    simp only [obj.sizeOf_spec]
    omega

/-- A whole value. -/
def text (v : Json) : String := v.render 0

end Json

end BoolWhile
