import ColonForth.Text.CodeRange

/-!
# Blank characters

A program is trimmed of blanks at its two ends before it is cut into words.  The blanks are the
white space of Unicode together with the four information separators; zero-width characters are
not among them.  Inside a program only the plain space separates, so any other blank that is not
at an end belongs to a word.
-/

namespace ColonForth.Text

/-- The intervals of the blank characters. -/
def blankRanges : List CodeRange :=
  [⟨0x09, 0x0D⟩, ⟨0x1C, 0x20⟩, ⟨0x85, 0x85⟩, ⟨0xA0, 0xA0⟩, ⟨0x1680, 0x1680⟩, ⟨0x2000, 0x200A⟩,
    ⟨0x2028, 0x2029⟩, ⟨0x202F, 0x202F⟩, ⟨0x205F, 0x205F⟩, ⟨0x3000, 0x3000⟩]

/-- Whether trimming removes the character. -/
def isBlank (c : Char) : Bool := CodeRange.covers blankRanges c

/-- The text without the blanks at its front. -/
def trimLeft (t : Text) : Text := t.dropWhile isBlank

/-- The text without the blanks at its back. -/
def trimRight (t : Text) : Text := (t.reverse.dropWhile isBlank).reverse

/-- The text without the blanks at its two ends. -/
def trim (t : Text) : Text := trimRight (trimLeft t)

/-- The plain space is blank. -/
theorem isBlank_space : isBlank ' ' = true := by decide

end ColonForth.Text
