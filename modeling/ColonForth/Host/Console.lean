import ColonForth.Eval
import ColonForth.Host.Files
import ColonForth.Log.Record

/-!
# The console

Hosts print a fixed set of messages.  A host is a computation whose trace is what it prints and
what it logs, in order, and which may end in a fault.
-/

namespace ColonForth

/-- A mode as it is shown to the user. -/
def Mode.describe : Mode → Text
  | .evaluating => "Evaluating()".toList
  | .awaitingName => "AwaitingIdentifier()".toList
  | .capturing name body =>
    "CapturingDefinition(name=".toList ++ Text.quote name ++ ", body=".toList
      ++ Text.quote body ++ [')']

namespace Host

/-- The version of the language that hosts announce. -/
def version : Text := "0.1.0".toList

/-- Something printed. -/
inductive Shown where
  /-- The first line of an interactive session on the given platform. -/
  | banner (platform : Text)
  /-- The startup file is about to be read. -/
  | startingUp
  /-- There is no startup file. -/
  | noStartupFile
  /-- The user is asked for a line. -/
  | prompt
  /-- A line failed. -/
  | failed (failure : Failure)
  /-- A line of a program file failed. -/
  | failedAt (file : Text) (line : Nat) (failure : Failure)
  /-- The stack after a line of an interactive session. -/
  | stack (text : Text)
  /-- The mode after a line of an interactive session. -/
  | mode (m : Mode)
  /-- The stack after a line of a program file. -/
  | stackAt (line : Nat) (text : Text)
  /-- The stack at the end of a program file. -/
  | finalStack (text : Text)
  /-- A fault is about to end the host. -/
  | internalError
  /-- The end of an interactive session. -/
  | farewell
deriving DecidableEq, Repr

namespace Shown

/-- A message as a line of its own. -/
def asLine (t : Text) : Text := t ++ ['\n']

/-- The text of a message.  Every message but the prompt ends its line. -/
def text : Shown → Text
  | .banner platform =>
    asLine ("Forth REPL (version ".toList ++ version ++ " on ".toList ++ platform ++ ").".toList)
  | .startingUp => asLine "Running startup initialization file...".toList
  | .noStartupFile => asLine "No startup initialization file found.".toList
  | .prompt => ">>> ".toList
  | .failed failure => asLine ("Error: ".toList ++ failure.message)
  | .failedAt file line failure =>
    asLine ("Error in ".toList ++ file ++ ", line ".toList ++ Decimal.ofNat line ++ ": ".toList
      ++ failure.message)
  | .stack t => asLine ("Stack: ".toList ++ t)
  | .mode m => asLine ("Mode: ".toList ++ m.describe)
  | .stackAt line t => asLine (Decimal.ofNat line ++ ": ".toList ++ t)
  | .finalStack t => asLine t
  | .internalError =>
    asLine "An internal error has occurred.".toList
      ++ asLine "This is a bug in the Forth interpreter.".toList
  | .farewell => asLine "Bye!".toList

end Shown

/-- Something a host gives out. -/
inductive Emission where
  /-- It is printed. -/
  | shown (s : Shown)
  /-- It is logged. -/
  | logged (r : Log.Record)
deriving DecidableEq, Repr

/-- A host's computation. -/
abbrev Console (α : Type) := Traced Emission Fault α

/-- What is printed, in order. -/
def shownIn (trace : List Emission) : List Shown :=
  trace.filterMap fun
    | .shown s => some s
    | .logged _ => none

/-- What is logged, in order. -/
def loggedIn (trace : List Emission) : List Log.Record :=
  trace.filterMap fun
    | .shown _ => none
    | .logged r => some r

/-- The printed text. -/
def printed (trace : List Emission) : Text := (shownIn trace).flatMap Shown.text

/-- Print a message. -/
def display (s : Shown) : Console Unit := Traced.note (.shown s)

/-- Log a record. -/
def log (r : Log.Record) : Console Unit := Traced.note (.logged r)

/-- Evaluate a line, with so many levels of expansion to spare.  A failure that hosts recover from
is handed over as a value, any other one ends the host. -/
def attempt (limit : Nat) (i : Interpreter) (line : Text) :
    Console (Except Failure Interpreter) :=
  let run := i.eval limit line
  { trace := run.trace.map fun e => .logged (Log.Record.ofEvent e)
    outcome :=
      match run.outcome with
      | .ok j => .ok (.ok j)
      | .error failure =>
        if failure.isRecoverable then .ok (.error failure) else .error (.evaluation failure) }

/-- The stack as text; a value too long to be written ends the host. -/
def stackText (i : Interpreter) : Console Text :=
  Traced.ofExcept (i.formatStack.mapError fun e => .evaluation (.limit e))

end Host

end ColonForth
