import ColonForth.Json

/-!
# What a log line can hold

The text of a log line is that of a JSON value.  An unordered collection has no such text, since
nothing says in which order its items would be written.
-/

namespace ColonForth.Log

/-- Something to be written as a log line. -/
inductive Loggable where
  /-- A value of the JSON format. -/
  | json (value : Json)
  /-- An unordered collection. -/
  | set (items : List Json)

/-- Why something cannot be written. -/
inductive WriteError where
  /-- It is an unordered collection. -/
  | unordered
deriving DecidableEq, Repr

/-- The wording of an error. -/
def WriteError.message : WriteError → Text
  | .unordered => "Object of type set is not JSON serializable".toList

/-- The log line, or why there is none. -/
def Loggable.render? : Loggable → Except WriteError Text
  | .json value => .ok value.render
  | .set _ => .error .unordered

end ColonForth.Log
