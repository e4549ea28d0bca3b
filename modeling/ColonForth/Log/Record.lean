import ColonForth.Eval
import ColonForth.Json
import ColonForth.Text.Quoted

/-!
# Log records

What evaluation and hosts record is written as one JSON object per line.  A record says which
logger made it, how important it is, where in the program it comes from, what it says, and which
error it is about, if any.  All of this may be any string in memory; what evaluation and hosts put
into their records are texts.
-/

namespace ColonForth.Log

/-- How important a record is. -/
inductive Level where
  | debug
  | info
  | warning
  | error
  | critical
deriving DecidableEq, Repr

namespace Level

/-- The name of a level in a record. -/
def name : Level → Text
  | .debug => "DEBUG".toList
  | .info => "INFO".toList
  | .warning => "WARNING".toList
  | .error => "ERROR".toList
  | .critical => "CRITICAL".toList

/-- The name of a level in the request for a record. -/
def requestName : Level → Text
  | .debug => "debug".toList
  | .info => "info".toList
  | .warning => "warning".toList
  | .error => "error".toList
  | .critical => "critical".toList

/-- The place of a level in the order of importance. -/
def rank : Level → Nat
  | .debug => 10
  | .info => 20
  | .warning => 30
  | .error => 40
  | .critical => 50

/-- Whether a logger with the given threshold keeps records of the level. -/
def isEnabled (level threshold : Level) : Bool := threshold.rank ≤ level.rank

end Level

/-- Where a record comes from. -/
structure Origin where
  /-- The name of the file. -/
  file : WideText
  /-- The name of the module. -/
  module : WideText
  /-- The name of the function. -/
  function : WideText
deriving DecidableEq, Repr

/-- One record. -/
structure Record where
  /-- The name of the logger. -/
  name : WideText
  /-- How important it is. -/
  level : Level
  /-- Where it comes from. -/
  origin : Origin
  /-- What it says. -/
  message : WideText
  /-- The line that describes the error it is about. -/
  exception : Option WideText
deriving DecidableEq, Repr

/-- The line that describes an error of the given kind: the kind, and the message if it has
one. -/
def errorLine (kind message : Text) : Text :=
  if message.isEmpty then kind ++ ['\n'] else kind ++ ':' :: ' ' :: (message ++ ['\n'])

namespace Record

/-- The line that describes an error, as a JSON value. -/
def exceptionJson : Option WideText → Json
  | some line => .array [.string line]
  | none => .null

/-- The record as a JSON object. -/
def toJson (r : Record) : Json :=
  .object
    [(Text.wide "name".toList, .string r.name),
     (Text.wide "message".toList, .string r.message),
     (Text.wide "level_name".toList, .string r.level.name.wide),
     (Text.wide "file_name".toList, .string r.origin.file),
     (Text.wide "module".toList, .string r.origin.module),
     (Text.wide "exception".toList, exceptionJson r.exception),
     (Text.wide "function_name".toList, .string r.origin.function)]

/-- The record as a line of the log. -/
def line (r : Record) : Text := r.toJson.render

/-! ## The records of an evaluation -/

/-- The logger of evaluations. -/
def evaluatorName : Text := "forth.interpreter".toList

/-- A record made by the evaluator in the given function. -/
def ofEvaluator (function : String) (message : Text) : Record where
  name := evaluatorName.wide
  level := .debug
  origin := ⟨Text.wide "interpreter.py".toList, evaluatorName.wide, Text.wide function.toList⟩
  message := message.wide
  exception := none

/-- The record of an event. -/
def ofEvent : Event → Record
  | .evaluating program =>
    ofEvaluator "eval" ("evaluating ".toList ++ Text.quote program)
  | .defined name body =>
    ofEvaluator "_capture" ("defined ".toList ++ name ++ " as ".toList ++ Text.quote body)
  | .failed word e =>
    ofEvaluator "do_cmd" (Text.quote word ++ " failed: ".toList ++ e.message)

/-! ## The records of a startup file -/

/-- The logger of the interactive host. -/
def replName : Text := "forth.stdlib.repl".toList

/-- The kind that an evaluation failure has in a log. -/
def failureKind : Failure → Text
  | .word .divisionByZero => "forth.errors.DivisionByZero".toList
  | .word .stackUnderflow => "forth.errors.StackUnderflow".toList
  | .word .invalidWord => "forth.errors.InvalidWord".toList
  | .word .unknownWord => "forth.errors.UnknownWord".toList
  | .word .unspecified => "forth.errors.ForthError".toList
  | .tooDeep => "RecursionError".toList
  | .limit _ => "ValueError".toList

/-- The wording of an evaluation failure in a log. -/
def failureText : Failure → Text
  | .tooDeep => "maximum recursion depth exceeded".toList
  | failure => failure.message

/-- The record of a line of a startup file that failed. -/
def ofStartupFailure (file : Text) (lineNumber : Nat) (failure : Failure) : Record where
  name := replName.wide
  level := .info
  origin := ⟨Text.wide "repl.py".toList, replName.wide, Text.wide "_exec_init_file".toList⟩
  message :=
    Text.wide (file ++ ':' :: (Decimal.ofNat lineNumber ++ ':' :: ' ' :: failureText failure))
  exception := some (errorLine (failureKind failure) (failureText failure)).wide

end Record

end ColonForth.Log
