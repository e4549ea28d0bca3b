import ColonForth.Host.Program

/-!
# The command

The outermost layer: it looks at the files that the arguments may name, hands everything to the
program and passes on what comes out.  An interactive session is printed as it goes along.
-/

namespace ColonForth.Command

open Host

/-- The name that the command goes by. -/
def programName : Text := "colonforth".toList

/-- The platform that the banner names. -/
def platform : Text := "Lean 4".toList

/-- The names of files that an argument may stand for: itself, or what follows its equals
sign. -/
def namesIn (argument : String) : List Text :=
  argument.toList :: (Arguments.splitEquals argument.toList).2.toList

/-- The reason that an error of the system stands for. -/
def reasonOf : IO.Error → OpenError
  | .noFileOrDirectory .. => .absent
  | .inappropriateType _ code _ => if code = 20 then .notFolder else .isFolder
  | .invalidArgument .. => .nameTooLong
  | .permissionDenied .. => .forbidden
  | _ => .isFolder

/-- The file that is opened under a name. -/
def fileOf (name : Text) : IO (Except OpenError Source) := do
  try
    let bytes ← IO.FS.readBinFile (String.ofList name)
    return .ok (Source.ofBytes bytes)
  catch e =>
    return .error (reasonOf e)

/-- The working folder, as far as the given names go. -/
def lookAround (names : List Text) : IO Folder := do
  let files ← names.mapM fun name => do
    let file ← fileOf name
    return (name, file)
  return fun name => (files.lookup name).getD (.error .absent)

/-- All that is left of the standard input, after the bytes already read. -/
partial def readAll (input : IO.FS.Stream) (bytes : ByteArray) : IO ByteArray := do
  let more ← input.read 65536
  if more.isEmpty then return bytes else readAll input (bytes ++ more)

/-- Pass on what a host gives out. -/
def emit (verbose : Bool) (trace : List Emission) : IO Unit := do
  let output ← IO.getStdout
  for emission in trace do
    match emission with
    | .shown s => output.putStr (String.ofList s.text)
    | .logged r => if verbose then IO.eprintln (String.ofList r.line)
  output.flush

/-- Report a fault. -/
def report (f : Fault) : IO UInt32 := do
  IO.eprintln (String.ofList f.message)
  return 1

/-- The lines of an interactive session, until the input ends. -/
partial def converse (debug verbose : Bool) (input : IO.FS.Stream) (i : Interpreter) :
    IO UInt32 := do
  emit verbose [.shown .prompt]
  let typed ← input.getLine
  match Text.programLines typed.toList with
  | [] =>
    emit verbose [.shown .farewell]
    return 0
  | line :: _ =>
    let console := Repl.respond Interpreter.expansionLimit debug i line
    emit verbose console.trace
    match console.outcome with
    | .ok j => converse debug verbose input j
    | .error f => report f

/-- An interactive session. -/
def session (folder : Folder) (p : Arguments.Invocation) (input : IO.FS.Stream) : IO UInt32 := do
  let console := Repl.start Interpreter.expansionLimit ⟨platform, p.debug, p.startupFile⟩ folder
    Interpreter.new
  emit p.verbose console.trace
  match console.outcome with
  | .ok i => converse p.debug p.verbose input i
  | .error f => report f

/-- Pass on all that is seen of a finished program. -/
def finish (f : Finish) : IO UInt32 := do
  IO.print (String.ofList f.output)
  IO.eprint (String.ofList f.complaints)
  for r in f.logs do
    IO.eprintln (String.ofList r.line)
  match f.outcome with
  | .ok status => return status.toUInt32
  | .error fault => report fault

end ColonForth.Command

open ColonForth ColonForth.Host ColonForth.Command in
/-- The command line. -/
def main (args : List String) : IO UInt32 := do
  let input ← IO.getStdin
  let isTerminal ← input.isTty
  let folder ← lookAround (Repl.defaultStartupFile :: args.flatMap namesIn)
  let arguments := args.map String.toList
  let world : Surroundings :=
    ⟨programName, platform, folder, .text [], isTerminal, none, Interpreter.expansionLimit⟩
  match Arguments.read folder arguments with
  | .error _ => finish (Program.run world arguments)
  | .ok p =>
    match p.file, isTerminal with
    | some _, _ => finish (Program.run world arguments)
    | none, true => session folder p input
    | none, false =>
      let bytes ← readAll input ByteArray.empty
      finish (Program.run { world with input := Source.ofBytes bytes } arguments)
