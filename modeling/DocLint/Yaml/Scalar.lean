import DocLint.Text.Natural
import DocLint.Yaml.Cursor

/-!
# Texts of YAML scalars

A scalar is written plainly, in single or double quotes, or as a block of lines that are kept as they are or
folded. Outside of such blocks a line break counts as a blank and several ones as one less, and what
surrounds a line break is dropped.
-/

namespace DocLint.Yaml

open DocLint.Text

/-- How a scalar is written. -/
inductive Style where
  /-- Without quotes. -/
  | plain
  /-- In single quotes. -/
  | singleQuoted
  /-- In double quotes. -/
  | doubleQuoted
  /-- As lines. -/
  | literal
  /-- As lines that are folded. -/
  | folded
  deriving DecidableEq, Repr

/-- The blanks and the line breaks between two words; there are no blanks behind a line break. -/
structure Gap where
  /-- The blanks in front of the first line break. -/
  blanks : List Char
  /-- The line breaks. -/
  breaks : List Char

namespace Gap

/-- No gap. -/
def none : Gap := ⟨[], []⟩

/-- What a gap counts as. -/
def text (g : Gap) : List Char :=
  match g.breaks with
  | [] => g.blanks
  | ['\n'] => [' ']
  | '\n' :: more => more
  | breaks => breaks

/-- Reads on in a gap. A tab behind a line break may have to be in a certain column. -/
def read (least : Nat) : Gap → List Char → Mark → Except Fault (Gap × Cursor)
  | g, [], m => .ok (g, ⟨[], m⟩)
  | g, c :: r, m =>
    if isBreak c then read least ⟨g.blanks, g.breaks ++ [c]⟩ r (m.after c)
    else if !isBlankChar c then .ok (g, ⟨c :: r, m⟩)
    else if g.breaks.isEmpty then read least ⟨g.blanks ++ [c], []⟩ r (m.after c)
    else if c = '\t' ∧ m.column < least then .error .badIndent
    else read least g r (m.after c)

end Gap

/-- Reads a word of a plain text. A colon ends it if a gap follows, and in brackets it must not stand right in
front of a mark. -/
def plainWord (inFlow : Bool) : List Char → Mark → Except Fault (List Char × Cursor)
  | [], m => .ok ([], ⟨[], m⟩)
  | c :: r, m =>
    let isEnd := isGap c || (c = ':' && endsWord r.head?) || (inFlow && isFlowMark c)
    if inFlow && c = ':' && r.head?.any (fun d => isFlowMark d || d = '?') then .error .tightColon
    else if isEnd then .ok ([], ⟨c :: r, m⟩)
    else (plainWord inFlow r (m.after c)).map fun p => (c :: p.1, p.2)

/-- Reads the words of a plain text that are left after a gap. Outside of brackets, lines have to be indented
by `least`. Gives the text, the gap behind it and the place. -/
def plainWords (inFlow : Bool) (least : Nat) :
    Nat → Gap → Cursor → Except Fault (List Char × Gap × Cursor)
  | 0, g, c => .ok ([], g, c)
  | fuel + 1, g, c =>
    if c.isAtDocumentMark || c.isAt '#' then .ok ([], g, c)
    else do
      let (word, c) ← plainWord inFlow c.rest c.mark
      if word.isEmpty then return ([], g, c)
      let text := g.text ++ word
      if !c.next?.any isGap then return (text, .none, c)
      let (g, c) ← Gap.read least .none c.rest c.mark
      if !inFlow && c.mark.column < least then return (text, g, c)
      let (more, g, c) ← plainWords inFlow least fuel g c
      return (text ++ more, g, c)

/-- Reads a plain text; also tells whether a line has ended behind it. -/
def plainText (inFlow : Bool) (least : Nat) (c : Cursor) :
    Except Fault (List Char × Bool × Cursor) := do
  let (text, g, c) ← plainWords inFlow least (c.rest.length + 1) .none c
  return (text, !g.breaks.isEmpty, c)

/-- What a letter after a backslash stands for. -/
def letterEscape? (c : Char) : Option Char :=
  match c with
  | '0' => some '\x00'
  | 'a' => some '\x07'
  | 'b' => some '\x08'
  | 't' => some '\t'
  | '\t' => some '\t'
  | 'n' => some '\n'
  | 'v' => some '\x0b'
  | 'f' => some '\x0c'
  | 'r' => some '\r'
  | 'e' => some '\x1b'
  | ' ' => some ' '
  | '"' => some '"'
  | '/' => some '/'
  | '\\' => some '\\'
  | 'N' => some '\u0085'
  | '_' => some '\u00a0'
  | 'L' => some '\u2028'
  | 'P' => some '\u2029'
  | _ => none

/-- The number of hexadecimal digits that follow a letter after a backslash. -/
def digitCount? (c : Char) : Option Nat :=
  match c with
  | 'x' => some 2
  | 'u' => some 4
  | 'U' => some 8
  | _ => none

/-- Reads an escape behind its backslash. -/
def escape (c : Cursor) : Except Fault (Char × Cursor) :=
  match c.rest with
  | [] => .error .badEscape
  | e :: r =>
    match letterEscape? e, digitCount? e with
    | some x, _ => .ok (x, c.drop 1)
    | none, some count =>
      match hexDigitsValue? (r.take count) with
      | some n =>
        if r.length < count ∨ (0xD800 ≤ n ∧ n ≤ 0xDFFF) ∨ 0x10FFFF < n then .error .badEscape
        else .ok (Char.ofNat n, c.drop (1 + count))
      | none => .error .badEscape
    | none, none => .error .badEscape

/-- Reads a word in single quotes. A quote inside is written twice. -/
def singleQuotedWord : List Char → Mark → List Char × Cursor
  | [], m => ([], ⟨[], m⟩)
  | '\x27' :: '\x27' :: r, m =>
    let (word, c) := singleQuotedWord r ((m.after '\x27').after '\x27')
    ('\x27' :: word, c)
  | c :: r, m =>
    if c = '\x27' ∨ isGap c then ([], ⟨c :: r, m⟩)
    else
      let (word, c') := singleQuotedWord r (m.after c)
      (c :: word, c')

/-- Reads a word in double quotes, and tells whether it ends with an escaped line break. -/
def doubleQuotedWord : Nat → Cursor → Except Fault (List Char × Bool × Cursor)
  | 0, c => .ok ([], false, c)
  | fuel + 1, c =>
    match c.rest with
    | [] => .ok ([], false, c)
    | x :: r =>
      if x = '"' ∨ isGap x then .ok ([], false, c)
      else if x = '\\' ∧ r.head?.any isBreak then .ok ([], true, c.drop 2)
      else do
        let (y, c) ← if x = '\\' then escape (c.drop 1) else .ok (x, c.drop 1)
        let (word, escaped, c) ← doubleQuotedWord fuel c
        return (y :: word, escaped, c)

/-- Reads a text up to its closing quote. -/
def quotedWords (quote : Char) : Nat → Cursor → Except Fault (List Char × Cursor)
  | 0, _ => .error .openQuote
  | fuel + 1, c =>
    if c.isAtDocumentMark || c.rest.isEmpty then .error .openQuote
    else do
      let (word, escaped, c) ←
        if quote = '"' then doubleQuotedWord (c.rest.length + 1) c
        else
          let (word, c) := singleQuotedWord c.rest c.mark
          pure (word, false, c)
      if c.isAt quote then return (word, c.drop 1)
      let (g, c) ← Gap.read 0 (if escaped then ⟨[], ['\n']⟩ else .none) c.rest c.mark
      let (more, c) ← quotedWords quote fuel c
      return (word ++ (if escaped then g.breaks.tail else g.text) ++ more, c)

/-- Reads a text in quotes from its opening quote on. -/
def quotedText (quote : Char) (c : Cursor) : Except Fault (List Char × Cursor) :=
  quotedWords quote (c.rest.length + 1) (c.drop 1)

/-- How the line breaks at the end of a block are treated. -/
inductive Chomp where
  /-- One is kept. -/
  | clip
  /-- None is kept. -/
  | strip
  /-- All are kept. -/
  | keep
  deriving DecidableEq

/-- Reads the sign that tells how a block ends, if there is one. -/
def readChomp (c : Cursor) : Option Chomp × Cursor :=
  if c.isAt '+' then (some .keep, c.drop 1)
  else if c.isAt '-' then (some .strip, c.drop 1)
  else (none, c)

/-- Reads the digit that tells how far a block is indented, if there is one. -/
def readIndent (c : Cursor) : Except Fault (Option Nat × Cursor) :=
  match c.next?.filter isDigit with
  | some d => if d = '0' then .error .badIndent else .ok (some (digitValue d), c.drop 1)
  | none => .ok (none, c)

/-- Reads the two marks behind the sign of a block, in either order. -/
def blockHeader (c : Cursor) : Except Fault (Chomp × Option Nat × Cursor) := do
  match readChomp c with
  | (some chomp, c) =>
    let (indent?, c) ← readIndent c
    return (chomp, indent?, c)
  | (none, c) =>
    let (indent?, c) ← readIndent c
    if indent?.isNone then return (.clip, none, c)
    let (chomp?, c) := readChomp c
    return (chomp?.getD .clip, indent?, c)

/-- Passes over the indentation of a block and its empty lines. Gives the line breaks, the greatest column
of the indentation and the place. -/
def blockBreaks (indent? : Option Nat) : List Char → Mark → List Char → Nat →
    Except Fault (List Char × Nat × Cursor)
  | [], m, breaks, deepest => .ok (breaks, max deepest m.column, ⟨[], m⟩)
  | c :: r, m, breaks, deepest =>
    let isWithin := indent?.all (m.column < ·)
    if isWithin && c = ' ' then blockBreaks indent? r (m.after c) breaks deepest
    else if isWithin && c = '\t' then .error .badIndent
    else if isBreak c then
      blockBreaks indent? r (m.after c) (breaks ++ [c]) (max deepest m.column)
    else .ok (breaks, max deepest m.column, ⟨c :: r, m⟩)

/-- The text of a block so far. -/
structure Block where
  /-- The lines and what joins them, the last one first. -/
  pieces : List (List Char)
  /-- The line break behind the last line. -/
  lineEnd : List Char
  /-- The line breaks after that one. -/
  breaks : List Char
  /-- Whether the last line starts with a blank. -/
  isIndented : Bool

/-- Adds a line to a block. When folded, the line break between two lines that start with no blank counts as
a blank, or as nothing if more line breaks follow. -/
def Block.add (b : Block) (isFolded : Bool) (line lineEnd breaks : List Char) : Block :=
  let isIndented := line.head?.any isBlankChar
  let joint :=
    if isFolded && b.lineEnd = ['\n'] && !b.isIndented && !isIndented then
      (if b.breaks.isEmpty then [' '] else [])
    else b.lineEnd
  ⟨(joint ++ b.breaks ++ line) :: b.pieces, lineEnd, breaks, isIndented⟩

/-- The text of a block whose lines have all been read. -/
def Block.finish (b : Block) (chomp : Chomp) : List Char :=
  let ending :=
    match chomp with
    | .strip => []
    | .clip => b.lineEnd
    | .keep => b.lineEnd ++ b.breaks
  (ending :: b.pieces).reverse.flatten

/-- Reads the lines of a block that are indented by `indent`. -/
def blockLines (isFolded : Bool) (indent : Nat) : Nat → Block → Cursor → Except Fault (Block × Cursor)
  | 0, b, c => .ok (b, c)
  | fuel + 1, b, c =>
    if c.mark.column ≠ indent ∨ c.rest.isEmpty then .ok (b, c)
    else do
      let line := c.takeWhile (!isBreak ·)
      let c := c.drop line.length
      let lineEnd := c.next?.toList
      let c := c.dropBreak
      let (breaks, _, c) ← blockBreaks (some indent) c.rest c.mark [] 0
      blockLines isFolded indent fuel (b.add isFolded line lineEnd breaks) c

/-- Reads a block behind its sign. It has to be indented by `least` at least. -/
def blockText (isFolded : Bool) (least : Nat) (c : Cursor) : Except Fault (List Char × Cursor) := do
  let (chomp, indent?, c) ← blockHeader c
  let c ← c.endLine
  let indent? := indent?.map (least - 1 + ·)
  let (breaks, deepest, c) ← blockBreaks indent? c.rest c.mark [] 0
  let indent := indent?.getD (max deepest (max least 1))
  let (b, c) ← blockLines isFolded indent (c.rest.length + 1) ⟨[], [], breaks, false⟩ c
  return (b.finish chomp, c)

end DocLint.Yaml
