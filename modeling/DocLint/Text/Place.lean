/-!
# Places in a text

A reader knows where it stands by what is left of the text. A place is told to people as a line and a
column: lines count from one, and the column is the number of bytes, in UTF-8, since the last line
break. A place may lie inside a character, since readers look at single bytes.
-/

namespace DocLint.Text

/-- The number of bytes of a text in UTF-8. -/
def byteSize : List Char → Nat
  | [] => 0
  | c :: r => c.utf8Size + byteSize r

/-- The line and column reached from `line` and `column` after `bytes` more bytes of the text. -/
def advanceBytes : List Char → Nat → Nat → Nat → Nat × Nat
  | [], _, line, column => (line, column)
  | c :: r, bytes, line, column =>
    if bytes = 0 then (line, column)
    else if c = '\n' then advanceBytes r (bytes - 1) (line + 1) 0
    else advanceBytes r (bytes - c.utf8Size) line (column + min bytes c.utf8Size)

/-- The line and column after the first `bytes` bytes of a text. -/
def lineColumn (text : List Char) (bytes : Nat) : Nat × Nat :=
  advanceBytes text bytes 1 0

/-- The first byte of a character in UTF-8, as the character of that number. -/
def firstByte (c : Char) : Char :=
  Char.ofNat ((String.utf8EncodeChar c).headD 0).toNat

end DocLint.Text
