import ColonForth.Error
import ColonForth.Stack

/-!
# Shuffle words

Words that rearrange the top of the stack.  Their effects, written bottom to top:

* `dup`: x becomes x x;
* `drop`: x is removed;
* `swap`: x y becomes y x;
* `over`: x y becomes x y x.
-/

namespace ColonForth

/-- The shuffle words. -/
inductive Shuffle where
  | dup
  | drop
  | swap
  | over
deriving DecidableEq, Repr

namespace Shuffle

/-- The word that a shuffle is written as. -/
def name : Shuffle → Text
  | .dup => ['d', 'u', 'p']
  | .drop => ['d', 'r', 'o', 'p']
  | .swap => ['s', 'w', 'a', 'p']
  | .over => ['o', 'v', 'e', 'r']

/-- The shuffle that is written as the given word. -/
def ofName? (t : Text) : Option Shuffle :=
  [.dup, .drop, .swap, .over].find? (fun w => w.name == t)

/-- What a shuffle word does to the stack. -/
def run (w : Shuffle) (s : Stack Int) : Except WordError (Stack Int) :=
  match w with
  | .dup =>
    match s.get? 0 with
    | some x => .ok (s.push x)
    | none => .error .stackUnderflow
  | .drop =>
    match s.pop? 1 with
    | some (_, rest) => .ok rest
    | none => .error .stackUnderflow
  | .swap =>
    match s.pop? 2 with
    | some ([y, x], rest) => .ok (rest.pushAll [y, x])
    | _ => .error .stackUnderflow
  | .over =>
    match s.get? 1 with
    | some x => .ok (s.push x)
    | none => .error .stackUnderflow

end Shuffle

end ColonForth
