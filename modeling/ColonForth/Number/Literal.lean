import ColonForth.Number.Decimal

/-!
# Integer literals

A literal is an optional sign and one or more ASCII digits, and nothing else.  A text is read in
three steps, as by a parser that first matches at the front, then converts what it has matched, and
only then looks for the end of the text:

* the match is greedy: it takes an optional sign and then all digits up to the first character that
  is none (`digitsOf`), and fails if there is no digit;
* the digits of the match are converted, which is refused if there are more than `digitLimit` of
  them;
* what is behind the match is looked at last: if there is something, the text is no literal.

So a text that begins with too many digits is refused even when it is no literal.
-/

namespace ColonForth.Literal

/-- Whether the character is an ASCII digit. -/
def isDigit (c : Char) : Bool := '0' ≤ c && c ≤ '9'

/-- The value of a digit. -/
def digitValue (c : Char) : Nat := c.toNat - '0'.toNat

/-- The number that a run of digits stands for. -/
def valueOf (digits : Text) : Nat := digits.foldl (fun n c => 10 * n + digitValue c) 0

/-- Whether a text begins with a minus sign, and what follows its optional sign. -/
def splitSign : Text → Bool × Text
  | '-' :: rest => (true, rest)
  | '+' :: rest => (false, rest)
  | t => (false, t)

/-- The digits of a text that follow its optional sign. -/
def digitsOf (t : Text) : Text := (splitSign t).2.takeWhile isDigit

/-- The integer that a text is a literal for, if it is one.  More than `digitLimit` digits after
the optional sign are refused whatever follows them. -/
def read (t : Text) : Except LimitError (Option Int) :=
  let digits := digitsOf t
  if digitLimit < digits.length then .error (.literalTooLong digits.length)
  else if digits.isEmpty || !((splitSign t).2.dropWhile isDigit).isEmpty then .ok none
  else .ok (some (if (splitSign t).1 then -(valueOf digits : Int) else valueOf digits))

end ColonForth.Literal
