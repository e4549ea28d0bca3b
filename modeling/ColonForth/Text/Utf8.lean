import ColonForth.Text.Basic

/-!
# Bytes of text

Text is stored in UTF-8.  Bytes are read one after the other by a machine that stands either
between two characters or within one, and refuses a byte as soon as no code point goes on with
it; that a code point is a surrogate, and therefore no character, is noticed when it is complete.
A file is read in blocks: what the blocks before the refused byte hold has been read by then, also
when the file ends within a character.
-/

namespace ColonForth.Text.Utf8

/-- Where the reader of bytes stands. -/
inductive Stand where
  /-- Between two characters. -/
  | between
  /-- Within a character of which `owed` bytes are to come, the next one from `low` to `high`;
  the bytes already read stand for `value`. -/
  | within (owed low high value : Nat)
deriving DecidableEq, Repr

/-- What the first byte of a character leads to.  The bounds on the second byte leave out what
could be written with fewer bytes and what is beyond the last code point. -/
def begin? (byte : Nat) : Option (Text × Stand) :=
  if byte < 0x80 then some ([Char.ofNat byte], .between)
  else if byte < 0xC2 then none
  else if byte < 0xE0 then some ([], .within 1 0x80 0xBF (byte - 0xC0))
  else if byte < 0xF0 then
    let low := if byte = 0xE0 then 0xA0 else 0x80
    some ([], .within 2 low 0xBF (byte - 0xE0))
  else if byte < 0xF5 then
    let low := if byte = 0xF0 then 0x90 else 0x80
    let high := if byte = 0xF4 then 0x8F else 0xBF
    some ([], .within 3 low high (byte - 0xF0))
  else none

/-- Whether a code point is a surrogate. -/
def isSurrogate (code : Nat) : Bool := 0xD800 ≤ code && code < 0xE000

/-- One byte: the character that it completes, if any, and where the reader stands afterwards. -/
def step? : Stand → Nat → Option (Text × Stand)
  | .between, byte => begin? byte
  | .within owed low high value, byte =>
    let code := 64 * value + (byte - 0x80)
    if byte < low || high < byte then none
    else if 1 < owed then some ([], .within (owed - 1) 0x80 0xBF code)
    else if isSurrogate code then none
    else some ([Char.ofNat code], .between)

/-- The bytes of one block. -/
def readBlock? : Stand → List Nat → Option (Text × Stand)
  | stand, [] => some ([], stand)
  | stand, byte :: rest =>
    match step? stand byte with
    | none => none
    | some (text, next) =>
      match readBlock? next rest with
      | none => none
      | some (more, last) => some (text ++ more, last)

/-- The text of the blocks up to the first one that is refused, and whether the blocks are text
to their end. -/
def readBlocks : Stand → List (List Nat) → Text × Bool
  | stand, [] => ([], stand == .between)
  | stand, block :: rest =>
    match readBlock? stand block with
    | none => ([], false)
    | some (text, next) =>
      let (more, isText) := readBlocks next rest
      (text ++ more, isText)

/-- The number of bytes in a block. -/
def blockSize : Nat := 8192

/-- The blocks of some bytes. -/
def blocks (bytes : ByteArray) : List (List Nat) :=
  (List.range (bytes.size / blockSize + 1)).map fun i =>
    (bytes.extract (blockSize * i) (blockSize * (i + 1))).data.toList.map UInt8.toNat

/-- The text that is read from some bytes before one of them is refused, and whether they are
text to their end. -/
def read (bytes : ByteArray) : Text × Bool := readBlocks .between (blocks bytes)

end ColonForth.Text.Utf8
