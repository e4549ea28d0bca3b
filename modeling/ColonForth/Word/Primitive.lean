import ColonForth.Word.Arithmetic
import ColonForth.Word.Shuffle

/-!
# Built-in words

The words that have a meaning before anything is defined, the arithmetic words and the shuffle
words.  A definition of the same name takes their place.
-/

namespace ColonForth

/-- A built-in word. -/
inductive Primitive where
  /-- An arithmetic word. -/
  | arithmetic (o : Operator)
  /-- A shuffle word. -/
  | shuffle (w : Shuffle)
deriving DecidableEq, Repr

namespace Primitive

/-- The word that a built-in word is written as. -/
def name : Primitive → Text
  | .arithmetic o => o.name
  | .shuffle w => w.name

/-- The built-in word that is written as the given word. -/
def ofName? (t : Text) : Option Primitive :=
  match Operator.ofName? t with
  | some o => some (.arithmetic o)
  | none => (Shuffle.ofName? t).map .shuffle

/-- What a built-in word does to the stack. -/
def run (p : Primitive) (s : Stack Int) : Except WordError (Stack Int) :=
  match p with
  | .arithmetic o => o.run s
  | .shuffle w => w.run s

end Primitive

end ColonForth
