import ColonForth.Text.Basic

/-!
# Lines

Files and typed input are read with any of the three common line ends: a line feed, a carriage
return, or both in that order.  A program file is then cut at line feeds.  A startup file is cut
at every character that ends a line in Unicode, a few control characters included.  A line end
at the very end of a text opens no further line.

A text that is still being read has only those lines that have come to their end.
-/

namespace ColonForth.Text

/-- The text with every line end written as one line feed. -/
def unifyLineEnds : Text → Text
  | [] => []
  | '\r' :: '\n' :: rest => '\n' :: unifyLineEnds rest
  | c :: rest => (if c = '\r' then '\n' else c) :: unifyLineEnds rest

/-- The lines of a text, each without the break that ended it. -/
def linesAt (isBreak : Char → Bool) : Text → List Text
  | [] => []
  | c :: rest =>
    if isBreak c then [] :: linesAt isBreak rest
    else
      match linesAt isBreak rest with
      | [] => [[c]]
      | line :: more => (c :: line) :: more

/-- The characters that end a line of a startup file. -/
def isLineBreak (c : Char) : Bool :=
  ['\n', '\x0b', '\x0c', '\r', '\x1c', '\x1d', '\x1e', '\u0085', '\u2028', '\u2029'].contains c

/-- The lines of a program file or of typed input. -/
def programLines (t : Text) : List Text := linesAt (· == '\n') (unifyLineEnds t)

/-- The lines of a program file or of typed input that have ended when only the given text has
been read.  A carriage return at its very end has not ended a line yet, for a line feed may
follow. -/
def endedLines (t : Text) : List Text :=
  let settled := if t.getLast? = some '\r' then t.dropLast else t
  (splitOn '\n' (unifyLineEnds settled)).dropLast

/-- The lines of a startup file. -/
def startupLines (t : Text) : List Text := linesAt isLineBreak (unifyLineEnds t)

end ColonForth.Text
