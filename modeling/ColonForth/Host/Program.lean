import ColonForth.Host.Arguments
import ColonForth.Host.Batch

/-!
# The whole program

Given its arguments and its surroundings, the program shows help or a usage error, or runs a
program file in batch, or, when no file is given and the input is a terminal, holds an
interactive session.
-/

namespace ColonForth.Host

/-- All that the program can see. -/
structure Surroundings where
  /-- The name under which the program was called. -/
  programName : Text
  /-- The platform named in the banner. -/
  platform : Text
  /-- The working folder. -/
  folder : Folder
  /-- The standard input. -/
  input : Source
  /-- Whether the standard input is a terminal. -/
  isTerminal : Bool
  /-- After how many reads the user interrupts an interactive session. -/
  interruptAfter : Option Nat
  /-- How many levels of expansion the evaluation of a line has to spare. -/
  limit : Nat

/-- All that can be seen of the program. -/
structure Finish where
  /-- The exit status, or the fault that ended the program. -/
  outcome : Except Fault Nat
  /-- The standard output. -/
  output : Text
  /-- The complaints about its use. -/
  complaints : Text
  /-- The log. -/
  logs : List Log.Record

namespace Program

/-- The name of the standard input in reports. -/
def inputName : Text := "<stdin>".toList

/-- The input of an interactive session. -/
def keyboard (world : Surroundings) : Keyboard :=
  match world.interruptAfter with
  | some reads => (Keyboard.ofSource world.input).interruptedAfter reads
  | none => Keyboard.ofSource world.input

/-- The host that an invocation calls for, and its exit status. -/
def host (world : Surroundings) (p : Arguments.Invocation) : Console Nat :=
  match p.file with
  | some (name, source) => Batch.run world.limit name p.debug source
  | none =>
    if world.isTerminal then do
      let _ ← Repl.run world.limit ⟨world.platform, p.debug, p.startupFile⟩ world.folder
        (keyboard world) Interpreter.new
      return 0
    else Batch.run world.limit inputName p.debug world.input

/-- The program from its arguments to its end. -/
def run (world : Surroundings) (arguments : List Text) : Finish :=
  match Arguments.read world.folder arguments with
  | .error .help => ⟨.ok 0, Arguments.helpText world.programName, [], []⟩
  | .error (.usage e) => ⟨.ok 2, [], Arguments.usageReport world.programName e, []⟩
  | .error (.fault f) => ⟨.error f, [], [], []⟩
  | .ok p =>
    let console := host world p
    ⟨console.outcome, printed console.trace, [],
      if p.verbose then loggedIn console.trace else []⟩

end Program

end ColonForth.Host
