import ColonForth.Dictionary
import ColonForth.Stack

/-!
# Interpreters

An interpreter is a value: the stack, the table of definitions and what the next word will be
taken for.  A definition is text.  It is opened by a colon, named by the next word, collected
word by word and stored by a semicolon, and it may be spread over several programs.
-/

namespace ColonForth

/-- What the next word is taken for. -/
inductive Mode where
  /-- It is evaluated. -/
  | evaluating
  /-- It names the definition that a colon has opened. -/
  | awaitingName
  /-- It is added to the body of the definition of `name`, unless it ends it. -/
  | capturing (name body : Text)
deriving DecidableEq, Repr

/-- The state that programs act on. -/
structure Interpreter where
  /-- The stack of integers. -/
  stack : Stack Int
  /-- What the next word is taken for. -/
  mode : Mode
  /-- The bodies of the defined words. -/
  definitions : Dictionary
deriving DecidableEq

namespace Interpreter

/-- The interpreter with an empty stack and nothing defined. -/
def new : Interpreter := ⟨Stack.empty, .evaluating, Dictionary.empty⟩

instance : Inhabited Interpreter := ⟨new⟩

/-- The interpreter with a value pushed on its stack. -/
def push (i : Interpreter) (n : Int) : Interpreter := { i with stack := i.stack.push n }

/-- The interpreter in which `name` is defined by `body`.  Any definition that was being read
is given up. -/
def define (i : Interpreter) (name body : Text) : Interpreter :=
  { i with mode := .evaluating, definitions := i.definitions.insert name body }

/-- The stack in decimal, bottom first. -/
def formatStack (i : Interpreter) : Except LimitError Text := i.stack.format

end Interpreter

end ColonForth
