import DocLint.Yaml.Fault

/-!
# Places in a YAML text

A cursor is what is left of a text together with its place: the byte, the line and the column. Of the
characters that end a line, carriage returns and next-line characters are taken as line feeds before a text
is read; the two Unicode separators stay what they are.
-/

namespace DocLint.Yaml

/-- Blanks and tabs. -/
def isBlankChar (c : Char) : Bool := c = ' ' || c = '\t'

/-- The characters that end a line. -/
def isBreak (c : Char) : Bool := c = '\n' || c = '\u2028' || c = '\u2029'

/-- The characters that separate words. -/
def isGap (c : Char) : Bool := isBlankChar c || isBreak c

/-- Whether a word ends in front of a character or of the end of the text. -/
def endsWord (c? : Option Char) : Bool := c?.all isGap

/-- Letters, digits, hyphens and low lines of ASCII. -/
def isNameChar (c : Char) : Bool := c.isAlphanum || c = '_' || c = '-'

/-- The characters that mean something in brackets. -/
def isFlowMark (c : Char) : Bool := c = ',' || c = '[' || c = ']' || c = '{' || c = '}'

/-- A place in a text. -/
structure Mark where
  /-- The number of bytes in front. -/
  index : Nat
  /-- The number of lines in front. -/
  line : Nat
  /-- The number of characters in front on the line. -/
  column : Nat
  deriving DecidableEq, Repr

/-- The place after a character. -/
def Mark.after (m : Mark) (c : Char) : Mark :=
  if isBreak c then ⟨m.index + c.utf8Size, m.line + 1, 0⟩
  else ⟨m.index + c.utf8Size, m.line, m.column + 1⟩

/-- What is left of a text, and its place. -/
structure Cursor where
  /-- What is left. -/
  rest : List Char
  /-- The place. -/
  mark : Mark

namespace Cursor

/-- The start of a text. -/
def start (cs : List Char) : Cursor := ⟨cs, ⟨0, 0, 0⟩⟩

/-- The next character. -/
def next? (c : Cursor) : Option Char := c.rest.head?

/-- Whether the next character is a given one. -/
def isAt (c : Cursor) (x : Char) : Bool := c.next? = some x

/-- The place some characters later. -/
def drop (n : Nat) (c : Cursor) : Cursor :=
  ⟨c.rest.drop n, (c.rest.take n).foldl Mark.after c.mark⟩

/-- The characters in front that satisfy a condition. -/
def takeWhile (p : Char → Bool) (c : Cursor) : List Char := c.rest.takeWhile p

/-- The place behind the characters in front that satisfy a condition. -/
def dropWhile (p : Char → Bool) (c : Cursor) : Cursor := c.drop (c.takeWhile p).length

/-- The place behind a line break, if one is next. -/
def dropBreak (c : Cursor) : Cursor := if c.next?.any isBreak then c.drop 1 else c

/-- The place behind a comment, if one is next. -/
def dropComment (c : Cursor) : Cursor := if c.isAt '#' then c.dropWhile (!isBreak ·) else c

/-- Passes over blanks, a comment and the end of the line; nothing else may be left of the line. -/
def endLine (c : Cursor) : Except Fault Cursor :=
  let c := (c.dropWhile isBlankChar).dropComment
  if c.next?.all isBreak then .ok c.dropBreak else .error .trailing

/-- Whether a line starts with a mark of three equal characters. -/
def isAtMark (x : Char) (c : Cursor) : Bool :=
  c.mark.column = 0 && c.rest.take 3 = [x, x, x] && endsWord (c.rest.drop 3).head?

/-- Whether a line starts with a mark between documents. -/
def isAtDocumentMark (c : Cursor) : Bool := c.isAtMark '-' || c.isAtMark '.'

end Cursor

/-- Takes carriage returns, with or without a line feed, and next-line characters as line feeds. -/
def unifyBreaks : List Char → List Char
  | '\r' :: '\n' :: r => '\n' :: unifyBreaks r
  | '\r' :: r => '\n' :: unifyBreaks r
  | '\u0085' :: r => '\n' :: unifyBreaks r
  | c :: r => c :: unifyBreaks r
  | [] => []

/-- Whether a character may stand in a text. -/
def isPrintable (c : Char) : Bool :=
  c = '\t' || c = '\n' || c = '\r' || c = '\u0085' || (0x20 ≤ c.toNat && c.toNat ≤ 0x7E) ||
    (0xA0 ≤ c.toNat && c.toNat ≠ 0xFFFE && c.toNat ≠ 0xFFFF)

end DocLint.Yaml
