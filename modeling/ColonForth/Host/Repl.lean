import ColonForth.Host.Console
import ColonForth.Host.Keyboard

/-!
# The interactive host

A session announces itself, runs the startup file if there is one, and then reads, evaluates and
prints line by line.  A failing line leaves the interpreter as it was.  A session that is
interrupted while it waits for a line ends politely with the interpreter that the startup file
left.
-/

namespace ColonForth.Host.Repl

/-- The name of the startup file when none is given. -/
def defaultStartupFile : Text := ".forth-rc".toList

/-- The choices of a session. -/
structure Settings where
  /-- The platform named in the banner. -/
  platform : Text
  /-- Whether the mode is shown after every line. -/
  debug : Bool
  /-- The name of the startup file, if it has been given one. -/
  startupFile : Option Text
deriving DecidableEq, Repr

/-- The lines of a startup file, the first of which has the given number. -/
def runStartupLines (limit : Nat) (file : Text) :
    Nat → List Text → Interpreter → Console Interpreter
  | _, [], i => .done i
  | number, line :: rest, i => do
    match ← attempt limit i line with
    | .ok j => runStartupLines limit file (number + 1) rest j
    | .error failure =>
      log (Log.Record.ofStartupFailure file number failure)
      display (.failed failure)
      runStartupLines limit file (number + 1) rest i

/-- The startup file of the given name.  That there is no such file is no fault; whatever else
keeps it from being read is one. -/
def runStartupFile (limit : Nat) (folder : Folder) (file : Text) (i : Interpreter) :
    Console Interpreter :=
  match folder file with
  | .error .absent => do
    display .noStartupFile
    return i
  | .error reason => .fail (.unopened file reason)
  | .ok (.undecodable _) => .fail .undecodable
  | .ok (.text t) => runStartupLines limit file 1 (Text.startupLines t) i

/-- The startup file, if there is one. -/
def runStartup (limit : Nat) (folder : Folder) (file : Option Text) (i : Interpreter) :
    Console Interpreter := do
  display .startingUp
  match file with
  | none => .fail .unnamedFile
  | some name => runStartupFile limit folder name i

/-- All that comes before the first prompt. -/
def start (limit : Nat) (settings : Settings) (folder : Folder) (i : Interpreter) :
    Console Interpreter := do
  display (.banner settings.platform)
  runStartup limit folder settings.startupFile i

/-- One line of input. -/
def respond (limit : Nat) (debug : Bool) (i : Interpreter) (line : Text) :
    Console Interpreter := do
  match ← attempt limit i line with
  | .ok j =>
    let t ← stackText j
    display (.stack t)
    if debug then display (.mode j.mode)
    return j
  | .error failure =>
    display (.failed failure)
    return i

/-- The lines of input and what comes after them.  The result of an interrupted session is
lost. -/
def loop (limit : Nat) (debug : Bool) (ending : Ending) :
    List Text → Interpreter → Console (Option Interpreter)
  | [], i => do
    display .prompt
    match ending with
    | .endOfInput => return some i
    | .interrupt => return none
    | .undecodable => .fail .undecodable
  | line :: rest, i => do
    display .prompt
    let j ← respond limit debug i line
    loop limit debug ending rest j

/-- A session from its banner to its farewell, and the interpreter it ends with. -/
def run (limit : Nat) (settings : Settings) (folder : Folder) (keyboard : Keyboard)
    (i : Interpreter) : Console Interpreter := do
  let started ← start limit settings folder i
  let last ← loop limit settings.debug keyboard.ending keyboard.lines started
  display .farewell
  return last.getD started

end ColonForth.Host.Repl
