import ColonForth.Log.Loggable
import ColonForth.Log.Percent
import ColonForth.Log.Record

/-!
# Loggers

A logger keeps the messages whose level reaches its threshold.  A message below it is dropped
before its template is looked at, so a faulty template is noticed only where it is used.  A
keyword that no message may have is noticed in any case.
-/

namespace ColonForth.Log

/-- What can be wrong with a message. -/
inductive MessageError where
  /-- The template cannot be filled in. -/
  | template (e : TemplateError)
  /-- A message of the given level has a keyword that names a part of every message. -/
  | takenKeyword (level : Level) (keyword : Text)
deriving DecidableEq, Repr

/-- The wording of an error. -/
def MessageError.message : MessageError → Text
  | .template e => e.message
  | .takenKeyword level keyword =>
    "ForthLogger.".toList ++ level.requestName
      ++ "() got multiple values for argument ".toList ++ Text.quote keyword

/-- A named logger. -/
structure Logger where
  /-- The name that its records carry. -/
  name : Text
  /-- The least level that is kept. -/
  threshold : Level
deriving DecidableEq, Repr

namespace Logger

/-- The record of a message, if the logger keeps it, or what is wrong with the message. -/
def log {ε : Type} (logger : Logger) (level : Level) (origin : Origin)
    (exception : Option Text) (message : Unit → Except ε Text) : Except ε (Option Record) :=
  if level.isEnabled logger.threshold then
    (message ()).map fun text =>
      some ⟨logger.name.wide, level, origin, Text.wide text, exception.map Text.wide⟩
  else .ok none

/-- The keyword by which a message asks for the error at hand to be recorded. -/
def errorKeyword : Text := "exc_info".toList

/-- The keywords that name the template and the logger of a message, which have no other use. -/
def takenKeywords : List Text := ["format_string".toList, "self".toList]

/-- The line recorded when the error at hand is asked for and there is none. -/
def noErrorLine : Text := "NoneType: None\n".toList

/-- The record of a message made from a template, where `handled` describes the error at hand, if
it is to be recorded anyway.  The keyword that asks for it is no argument of the template. -/
def logTemplate (logger : Logger) (level : Level) (origin : Origin) (handled : Option Text)
    (template : Text) (args : List Argument) (keywords : List (Text × Argument)) :
    Except MessageError (Option Record) :=
  match keywords.find? fun entry => takenKeywords.contains entry.1 with
  | some (keyword, _) => .error (.takenKeyword level keyword)
  | none =>
    let (asking, fields) := keywords.partition fun entry => entry.1 == errorKeyword
    let asked := if asking.any fun entry => entry.2.isAffirmative then some noErrorLine else none
    logger.log level origin (handled <|> asked) fun _ =>
      (Template.format template args fields).mapError .template

/-- The records of an evaluation that a logger with the given threshold keeps. -/
def recordsOf (threshold : Level) (events : List Event) : List Record :=
  (events.map Record.ofEvent).filter fun r => r.level.isEnabled threshold

end Logger

end ColonForth.Log
