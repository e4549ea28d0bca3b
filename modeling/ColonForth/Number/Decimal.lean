import ColonForth.Text.Basic

/-!
# Integers in decimal

Integers on the stack are unbounded, but their decimal text is not: a text of more than
`digitLimit` digits is neither read nor written.  This file holds the limit, the errors it
raises and the writing of integers.
-/

namespace ColonForth

/-- The greatest number of digits of an integer that is read or written. -/
def digitLimit : Nat := 4300

/-- The least absolute value that has too many digits to be written.  It is too large to be unfolded
by accident. -/
@[irreducible] def writeBound : Nat := Nat.pow 10 digitLimit

/-- The two ways in which the digit limit is hit. -/
inductive LimitError where
  /-- A literal has the given number of digits, which is too many. -/
  | literalTooLong (digits : Nat)
  /-- An integer has too many digits to be written. -/
  | valueTooLong
deriving DecidableEq, Repr

namespace Decimal

/-- The decimal digits of a natural number, without leading zeros. -/
def ofNat (n : Nat) : Text := Nat.toDigits 10 n

/-- The decimal text of an integer of any size. -/
def ofInt (n : Int) : Text := if n < 0 then '-' :: ofNat n.natAbs else ofNat n.natAbs

/-- The decimal text of an integer, refused when it has too many digits. -/
def write (n : Int) : Except LimitError Text :=
  if n.natAbs < writeBound then .ok (ofInt n) else .error .valueTooLong

/-- The decimal texts of several integers in order, refused when one has too many digits. -/
def writeAll : List Int → Except LimitError (List Text)
  | [] => .ok []
  | n :: rest =>
    match write n with
    | .error e => .error e
    | .ok text => (writeAll rest).map (text :: ·)

end Decimal

namespace LimitError

/-- The beginning of both messages. -/
def limitMessage : Text :=
  "Exceeds the limit (".toList ++ Decimal.ofNat digitLimit
    ++ " digits) for integer string conversion".toList

/-- The wording of an error. -/
def message : LimitError → Text
  | .literalTooLong digits =>
    limitMessage ++ ": value has ".toList ++ Decimal.ofNat digits
      ++ " digits; use sys.set_int_max_str_digits() to increase the limit".toList
  | .valueTooLong =>
    limitMessage ++ "; use sys.set_int_max_str_digits() to increase the limit".toList

end LimitError

end ColonForth
