import ColonForth.Host.Files
import ColonForth.Text.Lines

/-!
# Typed input

An interactive session reads lines until its input ends, until the user interrupts it, or until
the input turns out not to be text.
-/

namespace ColonForth.Host

/-- How reading comes to an end. -/
inductive Ending where
  /-- There is no more input. -/
  | endOfInput
  /-- The user interrupts the reading of a line. -/
  | interrupt
  /-- The input is no text. -/
  | undecodable
deriving DecidableEq, Repr

/-- The lines that can be read, and what comes after them. -/
structure Keyboard where
  /-- The lines, without their ends. -/
  lines : List Text
  /-- What the read after the last line meets. -/
  ending : Ending
deriving DecidableEq, Repr

namespace Keyboard

/-- The lines of a source up to its end, or up to where it turns out to be no text. -/
def ofSource : Source → Keyboard
  | .text t => ⟨Text.programLines t, .endOfInput⟩
  | .undecodable before => ⟨Text.endedLines before, .undecodable⟩

/-- The same input, of which only the first `reads` reads are let through: the next one is
interrupted.  The read that finds the end of the input counts as one. -/
def interruptedAfter (reads : Nat) (k : Keyboard) : Keyboard :=
  if reads ≤ k.lines.length then ⟨k.lines.take reads, .interrupt⟩ else k

end Keyboard

end ColonForth.Host
