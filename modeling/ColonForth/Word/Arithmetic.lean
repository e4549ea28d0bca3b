import ColonForth.Error
import ColonForth.Stack

/-!
# Arithmetic words

An arithmetic word takes the two topmost values and leaves one in their place: with `first` on
top and `second` below it, it leaves `second op first`.  The stack is checked before the divisor
is.
-/

namespace ColonForth

/-- The arithmetic words. -/
inductive Operator where
  | add
  | subtract
  | multiply
  | divide
deriving DecidableEq, Repr

namespace Operator

/-- The word that an operator is written as. -/
def name : Operator → Text
  | .add => ['+']
  | .subtract => ['-']
  | .multiply => ['*']
  | .divide => ['/']

/-- The operator that is written as the given word. -/
def ofName? (t : Text) : Option Operator :=
  [.add, .subtract, .multiply, .divide].find? (fun o => o.name == t)

/-- The value of `second op first` in unbounded integers; quotients are cut toward zero. -/
def apply (o : Operator) (second first : Int) : Except WordError Int :=
  match o with
  | .add => .ok (second + first)
  | .subtract => .ok (second - first)
  | .multiply => .ok (second * first)
  | .divide => if first = 0 then .error .divisionByZero else .ok (second.tdiv first)

/-- What an operator does to the stack. -/
def run (o : Operator) (s : Stack Int) : Except WordError (Stack Int) :=
  match s.pop? 2 with
  | some ([first, second], rest) => (o.apply second first).map rest.push
  | _ => .error .stackUnderflow

/-- What the operator of the given name does to the stack, if there is one.  The stack is checked
before the name is. -/
def runNamed (t : Text) (s : Stack Int) : Except WordError (Option (Stack Int)) :=
  if s.depth < 2 then .error .stackUnderflow
  else
    match ofName? t with
    | some o => (o.run s).map some
    | none => .ok none

end Operator

end ColonForth
