import ColonForth.Number.Decimal
import ColonForth.Text.Digit
import ColonForth.Text.Quoted

/-!
# Message templates

A log message is a template with fields in braces.  A field names its argument by a number, by a
keyword, or not at all, in which case the arguments are taken in order; numbered and unnumbered
fields do not mix.  After an exclamation mark a letter says how the argument is written.  A brace
that is meant literally is written twice.

A template is filled in from left to right, so the first fault met is the one reported: a fault
of the template counts where it stands, after the fields before it have been filled in.
-/

namespace ColonForth.Log

/-- An argument of a message. -/
inductive Argument where
  | text (t : Text)
  | integer (n : Int)
deriving DecidableEq, Repr

/-- Whether an argument counts as a yes: it is neither empty nor zero. -/
def Argument.isAffirmative : Argument → Bool
  | .text t => !t.isEmpty
  | .integer n => n != 0

/-- What can be wrong with a template and its arguments. -/
inductive TemplateError where
  /-- An opening brace ends the template. -/
  | loneOpening
  /-- A closing brace stands outside a field and is not doubled. -/
  | loneClosing
  /-- The template ends in the name of a field. -/
  | unclosedField
  /-- An opening brace stands in the name of a field. -/
  | openingInName
  /-- The template ends after an exclamation mark. -/
  | missingConversion
  /-- The letter of a conversion is followed by something else than the end of the field. -/
  | junkAfterConversion
  /-- The template ends before a field that has a conversion or a colon is closed. -/
  | unclosedSpecification
  /-- There is no conversion of the given letter. -/
  | unknownConversion (c : Char)
  /-- The number of a field is beyond all bounds. -/
  | numberTooLarge
  /-- A field without a number follows one with a number. -/
  | manualThenAutomatic
  /-- A field with a number follows one without. -/
  | automaticThenManual
  /-- There is no argument at the given place. -/
  | noSuchPlace (place : Nat)
  /-- There is no argument under the given keyword. -/
  | noSuchKeyword (name : Text)
  /-- An argument is too long to be written. -/
  | limit (error : LimitError)
deriving DecidableEq, Repr

namespace TemplateError

/-- The wording of an error. -/
def message : TemplateError → Text
  | .loneOpening => "Single '\x7b' encountered in format string".toList
  | .loneClosing => "Single '\x7d' encountered in format string".toList
  | .unclosedField => "expected '\x7d' before end of string".toList
  | .openingInName => "unexpected '\x7b' in field name".toList
  | .missingConversion => "end of string while looking for conversion specifier".toList
  | .junkAfterConversion => "expected ':' after conversion specifier".toList
  | .unclosedSpecification => "unmatched '\x7b' in format spec".toList
  | .unknownConversion c =>
    "Unknown conversion specifier ".toList
      ++ (if 0x20 < c.toNat && c.toNat < 0x7F then [c]
          else '\\' :: 'x' :: Nat.toDigits 16 c.toNat)
  | .numberTooLarge => "Too many decimal digits in format string".toList
  | .manualThenAutomatic =>
    "cannot switch from manual field specification to automatic field numbering".toList
  | .automaticThenManual =>
    "cannot switch from automatic field numbering to manual field specification".toList
  | .noSuchPlace place =>
    "Replacement index ".toList ++ Decimal.ofNat place
      ++ " out of range for positional args tuple".toList
  | .noSuchKeyword name => Text.quote name
  | .limit e => e.message

end TemplateError

/-- A piece of a template. -/
inductive Piece where
  /-- A character that stands for itself. -/
  | literal (c : Char)
  /-- A field with its name and the letter of its conversion. -/
  | field (name : Text) (conversion : Option Char)
  /-- The place where the template stops making sense. -/
  | malformed (e : TemplateError)
deriving DecidableEq, Repr

/-- Where the reader of a template is. -/
inductive Place where
  /-- Between fields. -/
  | outside
  /-- In the name of a field, of which the given part has been read. -/
  | inName (name : Text)
  /-- After the exclamation mark. -/
  | inConversion (name : Text)
  /-- After the colon, with the given number of further braces open. -/
  | inSpecification (name : Text) (conversion : Option Char) (nesting : Nat)

namespace Template

/-- The pieces of a template from a place on. -/
def piecesFrom : Place → Text → List Piece
  | .outside, [] => []
  | .outside, '\x7b' :: '\x7b' :: rest => .literal '\x7b' :: piecesFrom .outside rest
  | .outside, '\x7d' :: '\x7d' :: rest => .literal '\x7d' :: piecesFrom .outside rest
  | .outside, ['\x7b'] => [.malformed .loneOpening]
  | .outside, '\x7b' :: rest => piecesFrom (.inName []) rest
  | .outside, '\x7d' :: _ => [.malformed .loneClosing]
  | .outside, c :: rest => .literal c :: piecesFrom .outside rest
  | .inName _, [] => [.malformed .unclosedField]
  | .inName _, '\x7b' :: _ => [.malformed .openingInName]
  | .inName name, '\x7d' :: rest => .field name none :: piecesFrom .outside rest
  | .inName name, '!' :: rest => piecesFrom (.inConversion name) rest
  | .inName name, ':' :: rest => piecesFrom (.inSpecification name none 0) rest
  | .inName name, c :: rest => piecesFrom (.inName (name ++ [c])) rest
  | .inConversion _, [] => [.malformed .missingConversion]
  | .inConversion _, [_] => [.malformed .unclosedSpecification]
  | .inConversion name, c :: '\x7d' :: rest => .field name (some c) :: piecesFrom .outside rest
  | .inConversion name, c :: ':' :: rest => piecesFrom (.inSpecification name (some c) 0) rest
  | .inConversion _, _ :: _ :: _ => [.malformed .junkAfterConversion]
  | .inSpecification _ _ _, [] => [.malformed .unclosedSpecification]
  | .inSpecification name conversion 0, '\x7d' :: rest =>
    .field name conversion :: piecesFrom .outside rest
  | .inSpecification name conversion (n + 1), '\x7d' :: rest =>
    piecesFrom (.inSpecification name conversion n) rest
  | .inSpecification name conversion n, '\x7b' :: rest =>
    piecesFrom (.inSpecification name conversion (n + 1)) rest
  | .inSpecification name conversion n, _ :: rest =>
    piecesFrom (.inSpecification name conversion n) rest

/-- The pieces of a template. -/
def pieces (template : Text) : List Piece := piecesFrom .outside template

/-- How the fields of a template have been numbered so far. -/
inductive Numbering where
  /-- No field has asked for a place yet. -/
  | undecided
  /-- Fields are taken in order, the next at the given place. -/
  | automatic (next : Nat)
  /-- Fields give their places. -/
  | manual
deriving DecidableEq, Repr

/-- The greatest number of a field. -/
def greatestPlace : Nat := 0x7FFFFFFFFFFFFFFF

/-- The number that the digits at the front of a field's name stand for. -/
def leadingNumber (name : Text) : Nat :=
  ((name.takeWhile Text.isDigit).filterMap Text.digitValue?).foldl (fun n d => 10 * n + d) 0

/-- What the name of a field asks for: a place among the arguments or a keyword, and how the
fields are numbered from then on. -/
def resolve (numbering : Numbering) (name : Text) :
    Except TemplateError ((Nat ⊕ Text) × Numbering) :=
  if greatestPlace < leadingNumber name then .error .numberTooLarge
  else if name.isEmpty then
    match numbering with
    | .undecided => .ok (.inl 0, .automatic 1)
    | .automatic next => .ok (.inl next, .automatic (next + 1))
    | .manual => .error .manualThenAutomatic
  else if name.all Text.isDigit then
    match numbering with
    | .automatic _ => .error .automaticThenManual
    | _ => .ok (.inl (leadingNumber name), .manual)
  else .ok (.inr name, numbering)

/-- The argument at a place or under a keyword. -/
def fetch (args : List Argument) (keywords : List (Text × Argument)) :
    Nat ⊕ Text → Except TemplateError Argument
  | .inl place =>
    match args[place]? with
    | some a => .ok a
    | none => .error (.noSuchPlace place)
  | .inr name =>
    match keywords.lookup name with
    | some a => .ok a
    | none => .error (.noSuchKeyword name)

/-- The plain text of an argument. -/
def plain : Argument → Except TemplateError Text
  | .text t => .ok t
  | .integer n => (Decimal.write n).mapError .limit

/-- The text of an argument under a conversion.  A zero character in its place asks for none. -/
def convert (conversion : Option Char) (a : Argument) : Except TemplateError Text :=
  match conversion, a with
  | none, a => plain a
  | some '\x00', a => plain a
  | some 's', a => plain a
  | some 'r', .text t => .ok (Text.quote t)
  | some 'r', a => plain a
  | some 'a', .text t => .ok (Text.quoteAscii t)
  | some 'a', a => plain a
  | some c, _ => .error (.unknownConversion c)

/-- The pieces filled in, from left to right. -/
def fill (args : List Argument) (keywords : List (Text × Argument)) :
    Numbering → List Piece → Except TemplateError Text
  | _, [] => .ok []
  | numbering, .literal c :: rest => (fill args keywords numbering rest).map (c :: ·)
  | _, .malformed e :: _ => .error e
  | numbering, .field name conversion :: rest => do
    let (source, numbering') ← resolve numbering name
    let a ← fetch args keywords source
    let t ← convert conversion a
    let more ← fill args keywords numbering' rest
    return t ++ more

/-- The message of a template and its arguments. -/
def format (template : Text) (args : List Argument) (keywords : List (Text × Argument)) :
    Except TemplateError Text :=
  fill args keywords .undecided (pieces template)

end Template

end ColonForth.Log
