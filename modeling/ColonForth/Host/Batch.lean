import ColonForth.Host.Console
import ColonForth.Text.Lines

/-!
# The batch host

A program file is run line by line.  A failing line is reported with its number and leaves the
interpreter as it was; the run goes on and ends with exit status 1.  At the end the stack is
printed.  A fault inside the run is announced before it ends the host.
-/

namespace ColonForth.Host.Batch

/-- How far a run has come. -/
structure Progress where
  /-- The interpreter that the successful lines have left. -/
  interpreter : Interpreter
  /-- Whether some line has failed. -/
  failed : Bool
deriving DecidableEq

/-- Evaluate one line of the file and report its failure. -/
def evalLine (limit : Nat) (file : Text) (number : Nat) (line : Text) (p : Progress) :
    Console Progress := do
  match ← attempt limit p.interpreter line with
  | .ok j => return { p with interpreter := j }
  | .error failure =>
    display (.failedAt file number failure)
    return { p with failed := true }

/-- One line of the file, after which the stack is shown if it is asked for. -/
def runLine (limit : Nat) (file : Text) (debug : Bool) (number : Nat) (line : Text)
    (p : Progress) : Console Progress := do
  let q ← evalLine limit file number line p
  if debug then
    let t ← stackText q.interpreter
    display (.stackAt number t)
  return q

/-- The lines of the file, the first of which has the given number. -/
def runLines (limit : Nat) (file : Text) (debug : Bool) :
    Nat → List Text → Progress → Console Progress
  | _, [], p => .done p
  | number, line :: rest, p => do
    let q ← runLine limit file debug number line p
    runLines limit file debug (number + 1) rest q

/-- All lines of a program, from a new interpreter. -/
def runProgram (limit : Nat) (file : Text) (debug : Bool) (lines : List Text) :
    Console Progress :=
  runLines limit file debug 1 lines ⟨Interpreter.new, false⟩

/-- The whole file.  If it is no text, the lines read before that shows are run first. -/
def runSource (limit : Nat) (file : Text) (debug : Bool) : Source → Console Progress
  | .text t => runProgram limit file debug (Text.programLines t)
  | .undecodable before => do
    let _ ← runProgram limit file debug (Text.endedLines before)
    .fail .undecodable

/-- The end of a run and its exit status.  A fault among the lines is announced; after the last line
the stack is printed. -/
def conclude (lines : Console Progress) : Console Nat := do
  let p ← lines.onFailure fun _ => [.shown .internalError]
  let t ← stackText p.interpreter
  display (.finalStack t)
  return if p.failed then 1 else 0

/-- A batch run and its exit status. -/
def run (limit : Nat) (file : Text) (debug : Bool) (source : Source) : Console Nat :=
  conclude (runSource limit file debug source)

end ColonForth.Host.Batch
