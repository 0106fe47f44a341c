/-!
# Hexadecimal digits

Code points and bytes are written with a fixed number of hexadecimal digits, lower-case in quoted
texts and upper-case in the notation `U+0041`.
-/

namespace BoolWhile

namespace Text

/-- The lower-case hexadecimal digit of a number below sixteen. -/
def hexDigit (n : Nat) : Char := if n < 10 then Char.ofNat (48 + n) else Char.ofNat (87 + n)

/-- The last `width` hexadecimal digits of `n`, the most significant first. -/
def hexDigits : (width n : Nat) → List Char
  | 0, _ => []
  | width + 1, n => hexDigits width (n / 16) ++ [hexDigit (n % 16)]

@[simp] theorem hexDigits_zero (n : Nat) : hexDigits 0 n = [] := rfl

theorem hexDigits_succ (width n : Nat) :
    hexDigits (width + 1) n = hexDigits width (n / 16) ++ [hexDigit (n % 16)] := rfl

/-- A code point in upper-case digits, four of them or as many as it needs. -/
def codePointDigits (c : Char) : List Char :=
  let width := if c.toNat < 0x10000 then 4 else if c.toNat < 0x100000 then 5 else 6
  (hexDigits width c.toNat).map Char.toUpper

end Text

end BoolWhile
