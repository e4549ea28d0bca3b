/-!
# Text

Programs, words, bodies of definitions and messages are lists of characters, so that every rule
of the language is a recursion on a list.  This file holds the two rules by which a program is
cut into words and words are put together again: the plain space, and nothing else, separates
them.
-/

namespace ColonForth

/-- A text is the list of its characters.  This is what bytes are decoded to; halves of characters
are no part of a text, but they may be part of a string in memory (`WideText`). -/
abbrev Text := List Char

namespace Text

/-- The pieces of a text between the occurrences of a character.  There is always at least one
piece; two neighbouring occurrences have an empty piece between them. -/
def splitOn (separator : Char) : Text → List Text
  | [] => [[]]
  | c :: rest =>
    if c = separator then [] :: splitOn separator rest
    else
      match splitOn separator rest with
      | [] => [[c]]
      | piece :: more => (c :: piece) :: more

/-- The pieces of a text between its plain spaces. -/
def pieces (t : Text) : List Text := splitOn ' ' t

/-- Texts put one after the other with `separator` between neighbours. -/
def join (separator : Text) : List Text → Text
  | [] => []
  | [piece] => piece
  | piece :: more => piece ++ separator ++ join separator more

/-- Texts put one after the other with one plain space between neighbours. -/
def spaced (texts : List Text) : Text := join [' '] texts

/-- Code-point order on texts, a text coming after its own beginnings. -/
def atMost : Text → Text → Bool
  | [], _ => true
  | _ :: _, [] => false
  | a :: s, b :: t => a < b || (a == b && atMost s t)

theorem splitOn_ne_nil (separator : Char) (t : Text) : splitOn separator t ≠ [] := by
  cases t with
  | nil => simp [splitOn]
  | cons c rest =>
    rw [splitOn]
    split
    · simp
    · split <;> simp

theorem join_cons_cons (separator a b : Text) (more : List Text) :
    join separator (a :: b :: more) = a ++ separator ++ join separator (b :: more) := rfl

end Text

end ColonForth
