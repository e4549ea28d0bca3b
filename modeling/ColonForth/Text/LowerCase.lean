import ColonForth.Text.CaseTable
import ColonForth.Text.Casing

/-!
# Lower case

Words are read in lower case.  Every letter is replaced by its lower-case form, with two rules
beyond the table of `CaseRow`:

* the capital I with a dot becomes two characters, a small i and a combining dot;
* the capital sigma becomes the final form when it ends a word, that is, when a cased letter
  stands before it and none after it, case-ignorable characters being passed over on both sides;
  otherwise it becomes the ordinary small sigma.

The surroundings of a sigma are those of the text as it was given, so the walk along the text
keeps the characters already passed, nearest first.
-/

namespace ColonForth.Text

/-- The lower-case form of a letter that has one of one character; any other character is
itself. -/
def lowerChar (c : Char) : Char :=
  match CaseRow.table.find? (fun row => c.toNat ≤ row.last) with
  | some row => if row.holds c.toNat then Char.ofNat (row.image c.toNat) else c
  | none => c

/-- The capital sigma. -/
def capitalSigma : Char := 'Σ'

/-- The capital I with a dot above. -/
def dottedCapitalI : Char := 'İ'

/-- The lower-case form of a character between the texts `before` (nearest character first) and
`after`. -/
def lowerAt (before : Text) (c : Char) (after : Text) : Text :=
  if c = capitalSigma then
    if startsCased before && !startsCased after then ['ς'] else ['σ']
  else if c = dottedCapitalI then ['i', '\u0307']
  else [lowerChar c]

/-- The lower-case form of a text that follows the characters `before`, nearest first. -/
def lowerAfter (before : Text) : Text → Text
  | [] => []
  | c :: rest => lowerAt before c rest ++ lowerAfter (c :: before) rest

/-- The lower-case form of a text. -/
def lower (t : Text) : Text := lowerAfter [] t

end ColonForth.Text
