import ColonForth.Log.Template

/-!
# Percent templates

The plain logger takes messages of an older style, in which every `%s` is replaced by the next
argument and a doubled percent sign stands for one.  A message without arguments is taken as it
is.  The number of arguments has to agree with the number of places for them.
-/

namespace ColonForth.Log

/-- What can be wrong with a percent template and its arguments. -/
inductive PercentError where
  /-- A place finds no argument left. -/
  | tooFewArguments
  /-- Arguments are left at the end of the template. -/
  | tooManyArguments
  /-- A percent sign ends the template. -/
  | incomplete
  /-- A percent sign is followed by a letter without a meaning, at the given index. -/
  | unsupported (c : Char) (index : Nat)
  /-- An argument cannot be written. -/
  | argument (e : TemplateError)
deriving DecidableEq, Repr

namespace PercentError

/-- The wording of an error. -/
def message : PercentError → Text
  | .tooFewArguments => "not enough arguments for format string".toList
  | .tooManyArguments => "not all arguments converted during string formatting".toList
  | .incomplete => "incomplete format".toList
  | .unsupported c index =>
    "unsupported format character '".toList ++ c :: "' (0x".toList
      ++ Nat.toDigits 16 c.toNat ++ ") at index ".toList ++ Decimal.ofNat index
  | .argument e => e.message

end PercentError

namespace Percent

/-- The template from the given index on, filled in with the arguments that are left. -/
def fill (index : Nat) : Text → List Argument → Except PercentError Text
  | [], [] => .ok []
  | [], _ :: _ => .error .tooManyArguments
  | ['%'], _ => .error .incomplete
  | '%' :: '%' :: rest, args => (fill (index + 2) rest args).map ('%' :: ·)
  | '%' :: 's' :: _, [] => .error .tooFewArguments
  | '%' :: 's' :: rest, a :: args => do
    let t ← (Template.plain a).mapError .argument
    let more ← fill (index + 2) rest args
    return t ++ more
  | '%' :: c :: _, _ => .error (.unsupported c (index + 1))
  | c :: rest, args => (fill (index + 1) rest args).map (c :: ·)

/-- The message of a percent template and its arguments. -/
def format (template : Text) (args : List Argument) : Except PercentError Text :=
  if args.isEmpty then .ok template else fill 0 template args

end Percent

end ColonForth.Log
