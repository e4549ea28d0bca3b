import ColonForth.Host.Repl
import ColonForth.Text.Digit

/-!
# Command-line arguments

The program takes four options and one file.  A long option may be cut short as long as no other
option begins the same way, and takes its value either from the next argument or after an equals
sign.  After a double dash nothing is an option.  A number with a minus sign, a lone dash, an
empty argument and anything with a space in it that is no option are files.

Arguments are classified first and then acted on from left to right.  The file is opened where it
stands and a request for help is honoured where it stands, so whatever comes first of a missing
file, a request for help and a wrong use of an option decides; arguments that nobody wants are
reported when all others have been dealt with.
-/

namespace ColonForth.Host.Arguments

/-- The options. -/
inductive Flag where
  | help
  | debug
  | verbose
  | initFile
deriving DecidableEq, Repr

/-- How each option is written. -/
def spellings : List (Text × Flag) :=
  [("-h".toList, .help), ("--help".toList, .help), ("--debug".toList, .debug),
   ("--verbose".toList, .verbose), ("--init-file".toList, .initFile)]

/-- The spellings of an option in messages. -/
def Flag.label : Flag → Text
  | .help => "-h/--help".toList
  | .debug => "--debug".toList
  | .verbose => "--verbose".toList
  | .initFile => "--init-file".toList

/-- A wrong use of the command line. -/
inductive UsageError where
  /-- Arguments that are neither options nor the file. -/
  | unrecognized (arguments : List Text)
  /-- An option lacks its value. -/
  | expectedValue (flag : Flag)
  /-- An option that takes no value was given one. -/
  | ignoredValue (flag : Flag) (value : Text)
  /-- A shortened option could be any of the given ones. -/
  | ambiguous (argument : Text) (candidates : List Text)
  /-- The given text can name no file. -/
  | invalidFile (name : Text)
deriving DecidableEq, Repr

/-- The wording of a wrong use. -/
def UsageError.message : UsageError → Text
  | .unrecognized arguments => "unrecognized arguments: ".toList ++ Text.spaced arguments
  | .expectedValue flag =>
    "argument ".toList ++ flag.label ++ ": expected one argument".toList
  | .ignoredValue flag value =>
    "argument ".toList ++ flag.label ++ ": ignored explicit argument ".toList ++ Text.quote value
  | .ambiguous argument candidates =>
    "ambiguous option: ".toList ++ argument ++ " could match ".toList
      ++ Text.join [',', ' '] candidates
  | .invalidFile name => "argument file: invalid func value: ".toList ++ Text.quote name

/-- What an argument is. -/
inductive Argument where
  /-- A file, or the value of an option. -/
  | plain (t : Text)
  /-- An option, whether it is spelled with one dash, and the text that is attached to it, be it
  by an equals sign or, to a short option, directly. -/
  | option (flag : Flag) (isShort : Bool) (attached : Option Text)
  /-- Something that looks like an option and is none. -/
  | stranger (t : Text)
  /-- The double dash. -/
  | separator
deriving DecidableEq, Repr

/-! ## Classification -/

/-- Whether a spelling has one dash only. -/
def isShortSpelling (t : Text) : Bool := t.take 2 != ['-', '-']

/-- The text before the first equals sign, and the text after it. -/
def splitEquals (t : Text) : Text × Option Text :=
  match t.dropWhile (· != '=') with
  | [] => (t, none)
  | _ :: value => (t.takeWhile (· != '='), some value)

/-- Whether a text is a negative integer or a negative decimal fraction.  One line feed at its
end is overlooked. -/
def isNegativeNumber (t : Text) : Bool :=
  match t with
  | '-' :: body =>
    let body := if body.getLast? = some '\n' then body.dropLast else body
    match body.dropWhile Text.isDigit with
    | [] => !body.isEmpty
    | '.' :: fraction => !fraction.isEmpty && fraction.all Text.isDigit
    | _ => false
  | _ => false

/-- The options that an argument may be short for, with the text attached to them.  An argument
with one dash can only be a short option with text right behind it. -/
def candidates (t : Text) : List (Text × Flag × Option Text) :=
  if isShortSpelling t then
    (spellings.filter fun entry => entry.1 == t.take 2).map fun entry =>
      (entry.1, entry.2, some (t.drop 2))
  else
    let (name, value) := splitEquals t
    (spellings.filter fun entry => name.isPrefixOf entry.1).map fun entry =>
      (entry.1, entry.2, value)

/-- What a single argument is. -/
def classify (t : Text) : Except UsageError Argument :=
  if t.head? ≠ some '-' then .ok (.plain t)
  else
    match spellings.lookup t with
    | some flag => .ok (.option flag (isShortSpelling t) none)
    | none =>
      if t = ['-'] then .ok (.plain t)
      else
        let (name, value) := splitEquals t
        match value, spellings.lookup name with
        | some v, some flag => .ok (.option flag (isShortSpelling name) (some v))
        | _, _ =>
          match candidates t with
          | [(spelling, flag, attached)] =>
            .ok (.option flag (isShortSpelling spelling) attached)
          | [] =>
            if isNegativeNumber t || t.contains ' ' then .ok (.plain t) else .ok (.stranger t)
          | several => .error (.ambiguous t (several.map (·.1)))

/-- What the arguments are, up to the double dash, after which all are plain. -/
def classifyAll : List Text → Except UsageError (List Argument)
  | [] => .ok []
  | t :: rest =>
    if t = ['-', '-'] then .ok (.separator :: rest.map .plain)
    else do
      let a ← classify t
      let more ← classifyAll rest
      return a :: more

/-! ## Acting on the arguments -/

/-- What the arguments ask for. -/
structure Invocation where
  /-- Whether the stack or the mode is shown after every line. -/
  debug : Bool
  /-- Whether the log is written. -/
  verbose : Bool
  /-- The name of the startup file, if it has been given one. -/
  startupFile : Option Text
  /-- The program file, with its name. -/
  file : Option (Text × Source)
  /-- The arguments that nobody wants. -/
  extras : List Text
deriving DecidableEq, Repr

/-- What no arguments ask for. -/
def Invocation.default : Invocation := ⟨false, false, some Repl.defaultStartupFile, none, []⟩

/-- The invocation with one more argument that nobody wants. -/
def Invocation.refuse (p : Invocation) (t : Text) : Invocation :=
  { p with extras := p.extras ++ [t] }

/-- Why the arguments are not read to their end. -/
inductive Stop where
  /-- Help is asked for. -/
  | help
  /-- The command line is used wrongly. -/
  | usage (e : UsageError)
  /-- The file cannot be opened. -/
  | fault (f : Fault)
deriving DecidableEq, Repr

/-- What the text attached to `-h` comes to.  It is read as more one-letter options, of which only
`h` exists; from the first other letter on it is a value, which the option refuses. -/
def stopAtHelp : Text → Stop
  | ['h'] => .help
  | 'h' :: rest => stopAtHelp rest
  | value => .usage (.ignoredValue .help value)

/-- The name that an option has been given by the text attached to it.  A double dash is dropped
here as it is elsewhere, and leaves no name. -/
def attachedName (value : Text) : Option Text := if value = ['-', '-'] then none else some value

/-- Open the program file. -/
def openFile (folder : Folder) (name : Text) : Except Stop (Text × Source) :=
  match folder name with
  | .ok source => .ok (name, source)
  | .error .zeroInName => .error (.usage (.invalidFile name))
  | .error reason => .error (.fault (.unopened name reason))

/-- Take a plain argument for the file, unless there is one already. -/
def takePlain (folder : Folder) (p : Invocation) (t : Text) : Except Stop Invocation :=
  if p.file.isSome then .ok (p.refuse t)
  else (openFile folder t).map fun file => { p with file := some file }

/-- Act on the arguments in order.  A double dash is dropped before the file and right after it;
anywhere else nobody wants it. -/
def act (folder : Folder) : List Argument → Invocation → Except Stop Invocation
  | [], p => .ok p
  | .plain t :: .separator :: rest, p => do
    let q ← takePlain folder p t
    act folder rest (if p.file.isSome then q.refuse ['-', '-'] else q)
  | .plain t :: rest, p => do
    let q ← takePlain folder p t
    act folder rest q
  | .separator :: rest, p => act folder rest (if p.file.isSome then p.refuse ['-', '-'] else p)
  | .stranger t :: rest, p => act folder rest (p.refuse t)
  | .option .initFile _ none :: .plain value :: rest, p =>
    act folder rest { p with startupFile := some value }
  | .option .initFile _ none :: _, _ => .error (.usage (.expectedValue .initFile))
  | .option .initFile _ (some value) :: rest, p =>
    act folder rest { p with startupFile := attachedName value }
  | .option .debug _ none :: rest, p => act folder rest { p with debug := true }
  | .option .verbose _ none :: rest, p => act folder rest { p with verbose := true }
  | .option .help _ none :: _, _ => .error .help
  | .option .help true (some value) :: _, _ => .error (stopAtHelp value)
  | .option flag _ (some value) :: _, _ => .error (.usage (.ignoredValue flag value))

/-- What a command line asks for. -/
def read (folder : Folder) (arguments : List Text) : Except Stop Invocation :=
  match classifyAll arguments with
  | .error e => .error (.usage e)
  | .ok classified =>
    match act folder classified .default with
    | .error stop => .error stop
    | .ok p => if p.extras.isEmpty then .ok p else .error (.usage (.unrecognized p.extras))

/-! ## Help -/

/-- The line that shows how a program of the given name is used. -/
def usageLine (program : Text) : Text :=
  "usage: ".toList ++ program
    ++ " [-h] [--debug] [--verbose] [--init-file INIT_FILE] [file]\n".toList

/-- The help text. -/
def helpText (program : Text) : Text :=
  usageLine program ++ List.flatten (List.map Shown.asLine
    [[],
     "Run a Forth program.".toList,
     [],
     "positional arguments:".toList,
     "  file                  file to run, one program per line".toList,
     [],
     "options:".toList,
     "  -h, --help            show this help message and exit".toList,
     "  --debug               print the stack after every line".toList,
     "  --verbose             print internal logs as JSON to standard error".toList,
     "  --init-file INIT_FILE".toList,
     "                        file to run before the interactive prompt starts".toList])

/-- The report of a wrong use. -/
def usageReport (program : Text) (e : UsageError) : Text :=
  usageLine program ++ Shown.asLine (program ++ ": error: ".toList ++ e.message)

end ColonForth.Host.Arguments
