import ColonForth.Interpreter
import ColonForth.Number.Literal
import ColonForth.Tokens
import ColonForth.Traced
import ColonForth.Word.Primitive

/-!
# Evaluation

A program is evaluated word by word.  What a word does depends on the mode:

* while a definition awaits its name, the word becomes the name, unless it is a colon, a
  semicolon or a literal;
* while a definition is captured, a semicolon stores it; any other word is added to the body,
  and a word that is itself defined is replaced by the body it has at that moment;
* otherwise a colon opens a definition, a literal is pushed, a defined word has its body
  evaluated in its place, and a built-in word acts on the stack.

Literals come before definitions and definitions before built-in words.  A failing word ends the
whole program.

Bodies are evaluated inside the program that uses them, and inside those further bodies, so the
nesting is bounded by a number of levels; `eval` recurses on it.  One word (`step`) is not
recursive: it is given what to do with a body.  A trace records every text whose evaluation
begins, every definition stored, and every word in which a failure is noticed on its way out.
-/

namespace ColonForth

/-- What evaluation records. -/
inductive Event where
  /-- The evaluation of a text begins. -/
  | evaluating (program : Text)
  /-- A definition is stored. -/
  | defined (name body : Text)
  /-- A word has failed, itself or inside its body. -/
  | failed (word : Text) (error : WordError)
deriving DecidableEq, Repr

/-- An evaluation: its events, and the interpreter it leaves or the failure it ends in. -/
abbrev Run := Traced Event Failure Interpreter

/-- What a word stands for when it is evaluated. -/
inductive Meaning where
  /-- It opens a definition. -/
  | opening
  /-- It is a literal. -/
  | number (n : Int)
  /-- It is defined by a body. -/
  | expansion (body : Text)
  /-- It is built in. -/
  | primitive (p : Primitive)
  /-- It stands for nothing. -/
  | unknown
deriving DecidableEq, Repr

namespace Interpreter

/-- What a word stands for.  A literal of too many digits is refused. -/
def meaning (i : Interpreter) (word : Text) : Except LimitError Meaning :=
  if word = colon then .ok .opening
  else
    match Literal.read word with
    | .error e => .error e
    | .ok (some n) => .ok (.number n)
    | .ok none =>
      match i.definitions.lookup word with
      | some body => .ok (.expansion body)
      | none =>
        match Primitive.ofName? word with
        | some p => .ok (.primitive p)
        | none => .ok .unknown

/-- The word becomes the name of the definition that is being opened. -/
def nameDefinition (i : Interpreter) (word : Text) : Except Failure Interpreter :=
  if word = colon ∨ word = semicolon then .error (.word .invalidWord)
  else
    match Literal.read word with
    | .error e => .error (.limit e)
    | .ok (some _) => .error (.word .invalidWord)
    | .ok none => .ok { i with mode := .capturing word [] }

/-- The text that a word adds to a body: the body it has itself, or else the word. -/
def expansionOf (i : Interpreter) (word : Text) : Text :=
  (i.definitions.lookup word).getD word

/-- A body with one more word's text at its end.  A body that is still empty gets no space. -/
def extendBody (body addition : Text) : Text :=
  if body.isEmpty then addition else body ++ ' ' :: addition

/-- The word ends the definition of `name`, or is added to its body. -/
def capture (i : Interpreter) (name body word : Text) : Run :=
  if word = semicolon then ⟨[.defined name body], .ok (i.define name body)⟩
  else .done { i with mode := .capturing name (extendBody body (i.expansionOf word)) }

/-- The word is evaluated, `expand` saying what becomes of the body of a defined word. -/
def perform (expand : Interpreter → Text → Run) (i : Interpreter) (word : Text) : Run :=
  match i.meaning word with
  | .error e => .fail (.limit e)
  | .ok .opening => .done { i with mode := .awaitingName }
  | .ok (.number n) => .done (i.push n)
  | .ok (.expansion body) => expand i body
  | .ok (.primitive p) =>
    match p.run i.stack with
    | .ok s => .done { i with stack := s }
    | .error e => .fail (.word e)
  | .ok .unknown => .fail (.word .unknownWord)

/-- The event of a word that a failure passes: only failures of words are recorded. -/
def failureEvents (word : Text) : Failure → List Event
  | .word e => [.failed word e]
  | _ => []

/-- One word in any mode, `expand` saying what becomes of the body of a defined word. -/
def step (expand : Interpreter → Text → Run) (i : Interpreter) (word : Text) : Run :=
  if word.isEmpty then .done i
  else
    match i.mode with
    | .awaitingName => .ofExcept (i.nameDefinition word)
    | .capturing name body => i.capture name body word
    | .evaluating => (perform expand i word).onFailure (failureEvents word)

/-- Words in order, until one fails. -/
def steps (expand : Interpreter → Text → Run) : List Text → Interpreter → Run
  | [], i => .done i
  | word :: rest, i => (step expand i word).andThen (steps expand rest)

/-- A text whose bodies are dealt with by `expand`. -/
def evalWith (expand : Interpreter → Text → Run) (i : Interpreter) (program : Text) : Run :=
  (Traced.note (Event.evaluating program)).andThen fun _ => steps expand (tokenize program) i

/-- A program, with at most `limit` levels of bodies inside bodies. -/
def eval : (limit : Nat) → Interpreter → Text → Run
  | 0 => evalWith fun _ _ => .fail .tooDeep
  | limit + 1 => evalWith (eval limit)

/-- A single word, with at most `limit` levels of bodies inside bodies below its own. -/
def command (limit : Nat) (i : Interpreter) (word : Text) : Run := step (eval limit) i word

/-- The number of levels that the command allows.  Hosts work with any number. -/
def expansionLimit : Nat := 1000

end Interpreter

end ColonForth
