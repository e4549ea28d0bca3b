import ColonForth.Number.Decimal
import ColonForth.Text.Hex
import ColonForth.Text.Wide

/-!
# JSON text

Values of the JSON format and their one-line text.  Items are separated by a comma and a space,
keys from values by a colon and a space.  The text is plain ASCII without control characters:
quotes, backslashes and the five common control characters have short escapes, every other
character outside the printable ASCII range is escaped by its UTF-16 code units.  Half of a pair
that stands by itself is escaped by its own unit, so it is written as it is in the pair.
-/

namespace ColonForth

/-- A value of the JSON format.  Numbers are integers; the members of an object keep their
order. -/
inductive Json where
  | null
  | bool (b : Bool)
  | number (n : Int)
  | string (t : WideText)
  | array (items : List Json)
  | object (members : List (WideText × Json))
deriving Inhabited

namespace Json

/-- The escape of one UTF-16 code unit. -/
def unitEscape (n : Nat) : Text := '\\' :: 'u' :: Text.hex 4 n

/-- How a character is written inside a string. -/
def escapeChar (c : Char) : Text :=
  if c = '"' || c = '\\' then ['\\', c]
  else if c = '\n' then ['\\', 'n']
  else if c = '\r' then ['\\', 'r']
  else if c = '\t' then ['\\', 't']
  else if c = '\x08' then ['\\', 'b']
  else if c = '\x0c' then ['\\', 'f']
  else if 0x20 ≤ c.toNat && c.toNat ≤ 0x7E then [c]
  else if c.toNat < 0x10000 then unitEscape c.toNat
  else
    unitEscape (0xD800 + (c.toNat - 0x10000) / 0x400)
      ++ unitEscape (0xDC00 + (c.toNat - 0x10000) % 0x400)

/-- How a part of a string is written inside it. -/
def escapePoint : CodePoint → Text
  | .char c => escapeChar c
  | .half h => unitEscape h.unit

/-- A string as a JSON string. -/
def renderString (t : WideText) : Text := '"' :: (t.flatMap escapePoint ++ ['"'])

mutual

/-- The text of a value. -/
def render : Json → Text
  | .null => "null".toList
  | .bool true => "true".toList
  | .bool false => "false".toList
  | .number n => Decimal.ofInt n
  | .string t => renderString t
  | .array items => '[' :: (renderItems items ++ [']'])
  | .object members => '\x7b' :: (renderMembers members ++ ['\x7d'])

/-- The texts of the items of an array, separated. -/
def renderItems : List Json → Text
  | [] => []
  | [item] => render item
  | item :: rest => render item ++ ',' :: ' ' :: renderItems rest

/-- The texts of the members of an object, separated. -/
def renderMembers : List (WideText × Json) → Text
  | [] => []
  | [(key, value)] => renderString key ++ ':' :: ' ' :: render value
  | (key, value) :: rest =>
    renderString key ++ ':' :: ' ' :: (render value ++ ',' :: ' ' :: renderMembers rest)

end

end Json

end ColonForth
