import ColonForth.Text.Basic

/-!
# Strings in memory

A string in memory may hold what no text holds: one half of a UTF-16 pair by itself.  Programs are
read from files and from the input, which are encoded in UTF-8 and so have no halves; they are
texts, and so are their words and what hosts say about them.  A log record and a JSON value can hold
any string, whoever made it.
-/

namespace ColonForth

/-- One half of a UTF-16 pair. -/
structure Half where
  /-- Its code unit. -/
  unit : Nat
  /-- No half has a smaller unit. -/
  first_le : 0xD800 ≤ unit
  /-- No half has a larger unit. -/
  lt_end : unit < 0xE000
deriving DecidableEq, Repr

/-- What a string in memory is made of. -/
inductive CodePoint where
  /-- A character. -/
  | char (c : Char)
  /-- One half of a pair by itself. -/
  | half (h : Half)
deriving DecidableEq, Repr

/-- A string in memory: a text between whose characters there may be halves of pairs. -/
abbrev WideText := List CodePoint

namespace Text

/-- A text as a string in memory. -/
def wide (t : Text) : WideText := t.map .char

end Text

end ColonForth
