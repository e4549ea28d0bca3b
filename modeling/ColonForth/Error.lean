import ColonForth.Number.Decimal

/-!
# Errors

A word can fail for the four reasons of the language.  An evaluation can moreover be cut short
because words expand without end, or because the digit limit is hit.  Hosts recover from the
first two kinds and give up at the third.
-/

namespace ColonForth

/-- Why a word failed. -/
inductive WordError where
  /-- A quotient by zero was asked for. -/
  | divisionByZero
  /-- The stack holds fewer values than the word takes. -/
  | stackUnderflow
  /-- A colon, a semicolon or a number was given as the name of a new word. -/
  | invalidWord
  /-- The word is neither defined nor built in. -/
  | unknownWord
  /-- A failure of no stated kind; no rule of the language raises it. -/
  | unspecified
deriving DecidableEq, Repr

/-- The wording of a word's failure. -/
def WordError.message : WordError → Text
  | .divisionByZero => "Division by zero".toList
  | .stackUnderflow => "Stack underflow".toList
  | .invalidWord => "Invalid word".toList
  | .unknownWord => "Unknown word".toList
  | .unspecified => "Forth error".toList

/-- Why an evaluation ended without a result. -/
inductive Failure where
  /-- A word failed. -/
  | word (error : WordError)
  /-- Words expanded into words beyond the depth that is allowed. -/
  | tooDeep
  /-- A literal was too long to be read, or a value too long to be written. -/
  | limit (error : LimitError)
deriving DecidableEq, Repr

namespace Failure

/-- The wording that hosts print for a failure. -/
def message : Failure → Text
  | .word e => e.message
  | .tooDeep => "Word expansion does not terminate".toList
  | .limit e => e.message

/-- Whether a word failed. -/
def isWordError : Failure → Bool
  | .word _ => true
  | _ => false

/-- Whether hosts go on with the next line after the failure. -/
def isRecoverable : Failure → Bool
  | .word _ => true
  | .tooDeep => true
  | .limit _ => false

end Failure

end ColonForth
