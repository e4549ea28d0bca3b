import ColonForth.Text.Basic

/-!
# Hexadecimal numbers of fixed width

Escapes name a character by its code point in a fixed number of lower-case hexadecimal digits.
-/

namespace ColonForth.Text

/-- The digit for a value below sixteen. -/
def hexDigit (n : Nat) : Char :=
  if n < 10 then Char.ofNat (0x30 + n) else Char.ofNat (0x57 + n)

/-- The last `width` hexadecimal digits of a number, leading zeros included. -/
def hex : (width : Nat) → Nat → Text
  | 0, _ => []
  | width + 1, n => hex width (n / 16) ++ [hexDigit (n % 16)]

end ColonForth.Text
