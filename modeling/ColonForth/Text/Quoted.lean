import ColonForth.Text.Hex
import ColonForth.Text.Printable

/-!
# Quoted text

Messages show a piece of program text between quotes, so that its ends and every odd character
in it can be seen.  Single quotes are used, unless the text holds a single quote and no double
one.  The quote in use and the backslash are preceded by a backslash, line breaks and tabs have
their short escapes, and every other character that cannot be shown is named by its code point
in two, four or eight digits.
-/

namespace ColonForth.Text

/-- The quote that a text is put between. -/
def quoteFor (t : Text) : Char :=
  if t.contains '\'' && !t.contains '"' then '"' else '\''

/-- The escape that names a character by its code point. -/
def codeEscape (c : Char) : Text :=
  if c.toNat < 0x100 then '\\' :: 'x' :: hex 2 c.toNat
  else if c.toNat < 0x10000 then '\\' :: 'u' :: hex 4 c.toNat
  else '\\' :: 'U' :: hex 8 c.toNat

/-- How a character is written between quotes, where `isShown` says which characters stand for
themselves. -/
def quoteChar (isShown : Char → Bool) (quote c : Char) : Text :=
  if c = quote || c = '\\' then ['\\', c]
  else if c = '\n' then ['\\', 'n']
  else if c = '\r' then ['\\', 'r']
  else if c = '\t' then ['\\', 't']
  else if isShown c then [c]
  else codeEscape c

/-- The text between quotes, where `isShown` says which characters stand for themselves. -/
def quoteWith (isShown : Char → Bool) (t : Text) : Text :=
  quoteFor t :: (t.flatMap (quoteChar isShown (quoteFor t)) ++ [quoteFor t])

/-- The text between quotes, printable characters standing for themselves. -/
def quote (t : Text) : Text := quoteWith isPrintable t

/-- The text between quotes with ASCII characters only. -/
def quoteAscii (t : Text) : Text :=
  quoteWith (fun c => isPrintable c && c.toNat < 0x80) t

end ColonForth.Text
