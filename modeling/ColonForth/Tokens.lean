import ColonForth.Text.Blank
import ColonForth.Text.LowerCase

/-!
# The words of a program

A program is put into lower case, trimmed of blanks and cut at its plain spaces.  Runs of spaces
give empty words, which evaluation passes over.
-/

namespace ColonForth

/-- The words of a program, the empty ones included. -/
def tokenize (program : Text) : List Text :=
  Text.pieces (Text.trim (Text.lower program))

/-- The word that opens a definition. -/
def colon : Text := [':']

/-- The word that ends a definition. -/
def semicolon : Text := [';']

end ColonForth
