import DocLint.Yaml.Scalar
import DocLint.Yaml.Tag

/-!
# YAML as tokens

What a text says by brackets, signs and indentation, as a row of tokens. Indentation opens and closes blocks.
A value in front of a colon is a key only if it starts where a key may be, and if it is on one line and not
too long; the tokens for that are put in front of it once the colon has been found.
-/

namespace DocLint.Yaml

/-- A part of a YAML text. -/
inductive Token where
  /-- A directive in front of a document. -/
  | directive (d : Directive)
  /-- The start mark of a document. -/
  | documentStart
  /-- The end mark of a document. -/
  | documentEnd
  /-- The end of the text. -/
  | textEnd
  /-- The start of a list of lines. -/
  | blockSequence
  /-- The start of a mapping of lines. -/
  | blockMapping
  /-- The end of a list or mapping of lines. -/
  | blockEnd
  /-- An opening square bracket. -/
  | flowSequence
  /-- A closing square bracket. -/
  | flowSequenceEnd
  /-- An opening brace. -/
  | flowMapping
  /-- A closing brace. -/
  | flowMappingEnd
  /-- The dash of an item. -/
  | item
  /-- A comma. -/
  | comma
  /-- The start of a key. -/
  | key
  /-- The start of a value in a mapping. -/
  | value
  /-- An alias. -/
  | alias (name : List Char)
  /-- An anchor. -/
  | anchor (name : List Char)
  /-- A tag. -/
  | tag (t : TagName)
  /-- A scalar. -/
  | scalar (text : List Char) (style : Style)
  deriving DecidableEq, Repr

/-- Something that becomes a key if a colon follows it. -/
structure KeyStart where
  /-- Whether it stands where nothing but a key can be. -/
  isRequired : Bool
  /-- The number of tokens in front of it. -/
  position : Nat
  /-- Its place. -/
  mark : Mark

/-- What has been read of a text. -/
structure Scan where
  /-- What is left of the text. -/
  cursor : Cursor
  /-- The tokens so far. -/
  tokens : Array Token
  /-- The indentations of the blocks that are open, the innermost first. -/
  indents : List Nat
  /-- For each open bracket and for what surrounds them all, what may become a key there, the innermost
  first. -/
  keys : List (Option KeyStart)
  /-- Whether a key may start here. -/
  keyAllowed : Bool

namespace Scan

/-- The start of a text. -/
def start (cs : List Char) : Scan := ⟨.start cs, #[], [], [none], true⟩

/-- Whether a bracket is open. -/
def inFlow (s : Scan) : Bool := 1 < s.keys.length

/-- The column of the next character. -/
def column (s : Scan) : Nat := s.cursor.mark.column

/-- The least column of what belongs to the innermost block. -/
def least (s : Scan) : Nat :=
  match s.indents with
  | [] => 0
  | n :: _ => n + 1

/-- Adds a token. -/
def push (s : Scan) (t : Token) : Scan := { s with tokens := s.tokens.push t }

/-- Passes over some characters. -/
def drop (s : Scan) (n : Nat) : Scan := { s with cursor := s.cursor.drop n }

/-- Tells whether a key may start from here on. -/
def allowKey (s : Scan) (allowed : Bool) : Scan := { s with keyAllowed := allowed }

/-- Passes over blanks, comments and line breaks. A line break lets a key start, and where one can start, a
tab is no blank. -/
def skipGaps : Nat → Scan → Scan
  | 0, s => s
  | fuel + 1, s =>
    let s := if s.column = 0 ∧ s.cursor.isAt '\ufeff' then s.drop 1 else s
    let isSkipped : Char → Bool := fun c => c = ' ' || ((s.inFlow || !s.keyAllowed) && c = '\t')
    let s := { s with cursor := (s.cursor.dropWhile isSkipped).dropComment }
    if s.cursor.next?.any isBreak then skipGaps fuel ((s.drop 1).allowKey (s.keyAllowed || !s.inFlow))
    else s

/-- The greatest number of bytes from the start of a key to its colon. -/
def keyLimit : Nat := 1024

/-- Drops what can no longer become a key: it is not on this line, or too far away. -/
def dropStaleKeys (s : Scan) : Except Fault Scan := do
  let m := s.cursor.mark
  let keys ← s.keys.mapM fun k? =>
    match k? with
    | none => .ok none
    | some k =>
      if k.mark.line < m.line ∨ k.mark.index + keyLimit < m.index then
        (if k.isRequired then .error .unfinishedKey else .ok none)
      else .ok (some k)
  return { s with keys }

/-- Drops what could have become a key in the innermost bracket. -/
def dropKey (s : Scan) : Except Fault Scan :=
  match s.keys with
  | some k :: r => if k.isRequired then .error .unfinishedKey else .ok { s with keys := none :: r }
  | _ => .ok s

/-- Notes that something starts here that may become a key. -/
def saveKey (s : Scan) : Except Fault Scan := do
  if !s.keyAllowed then return s
  let isRequired := !s.inFlow && s.indents.head? = some s.column
  let s ← s.dropKey
  return { s with keys := some ⟨isRequired, s.tokens.size, s.cursor.mark⟩ :: s.keys.tail }

/-- Closes blocks that are indented further than a column; all of them if no column is given. -/
def closeBlocks (s : Scan) (column? : Option Nat) : Scan :=
  if s.inFlow then s
  else
    let isClosed : Nat → Bool := fun n => column?.all (· < n)
    let closed := s.indents.takeWhile isClosed
    { s with
      indents := s.indents.drop closed.length
      tokens := s.tokens ++ closed.map fun _ => Token.blockEnd }

/-- Opens a block at a column, unless one is open there. Its token is put behind `position` tokens. -/
def openBlock (s : Scan) (column : Nat) (position : Nat) (t : Token) : Scan :=
  if s.inFlow || s.indents.head?.any (column ≤ ·) then s
  else
    { s with
      indents := column :: s.indents
      tokens := s.tokens.insertIdxIfInBounds position t }

/-- Opens a block here. -/
def openBlockHere (s : Scan) (t : Token) : Scan := s.openBlock s.column s.tokens.size t

/-- Closes all blocks where a document starts or ends. -/
def closeDocument (s : Scan) : Except Fault Scan := do
  let s ← (s.closeBlocks none).dropKey
  return s.allowKey false

/-- Reads the end of the text. -/
def readEnd (s : Scan) : Except Fault Scan := do
  return (← s.closeDocument).push .textEnd

/-- Reads a directive. -/
def readDirective (s : Scan) : Except Fault Scan := do
  let s ← s.closeDocument
  let (d, cursor) ← directive s.cursor
  return { s with cursor }.push (.directive d)

/-- Reads a mark between documents. -/
def readMark (s : Scan) (t : Token) : Except Fault Scan := do
  return ((← s.closeDocument).drop 3).push t

/-- Reads an opening bracket. -/
def readOpening (s : Scan) (t : Token) : Except Fault Scan := do
  let s ← s.saveKey
  return (({ s with keys := none :: s.keys }.allowKey true).drop 1).push t

/-- Reads a closing bracket. -/
def readClosing (s : Scan) (t : Token) : Except Fault Scan := do
  let s ← s.dropKey
  let keys := if s.inFlow then s.keys.tail else s.keys
  return (({ s with keys }.allowKey false).drop 1).push t

/-- Reads a comma. -/
def readComma (s : Scan) : Except Fault Scan := do
  return (((← s.dropKey).allowKey true).drop 1).push .comma

/-- Reads the dash of an item. -/
def readItem (s : Scan) : Except Fault Scan := do
  if !s.inFlow && !s.keyAllowed then throw .misplacedItem
  let s ← (s.openBlockHere .blockSequence).dropKey
  return ((s.allowKey true).drop 1).push .item

/-- Reads the question mark of a key. -/
def readKey (s : Scan) : Except Fault Scan := do
  if !s.inFlow && !s.keyAllowed then throw .misplacedKey
  let s ← (s.openBlockHere .blockMapping).dropKey
  return ((s.allowKey (!s.inFlow)).drop 1).push .key

/-- Reads the colon of a value. -/
def readValue (s : Scan) : Except Fault Scan := do
  match s.keys with
  | some k :: r =>
    let s := { s with keys := none :: r, tokens := s.tokens.insertIdxIfInBounds k.position .key }
    let s := s.openBlock k.mark.column k.position .blockMapping
    return ((s.allowKey false).drop 1).push .value
  | _ =>
    if !s.inFlow && !s.keyAllowed then throw .misplacedValue
    let s := s.openBlockHere .blockMapping
    return ((s.allowKey (!s.inFlow)).drop 1).push .value

/-- Reads something that may become a key, and after which none can start. -/
def readKeyable (s : Scan) (read : Cursor → Except Fault (Token × Cursor)) : Except Fault Scan := do
  let s ← s.saveKey
  let (t, cursor) ← read s.cursor
  return ({ s with cursor }.allowKey false).push t

/-- Reads a plain text, after which a key can start if a line has ended. -/
def readPlain (s : Scan) : Except Fault Scan := do
  let s ← s.saveKey
  let (text, hasBreak, cursor) ← plainText s.inFlow s.least s.cursor
  return ({ s with cursor }.allowKey hasBreak).push (.scalar text .plain)

/-- Reads a block text. -/
def readBlock (s : Scan) (style : Style) : Except Fault Scan := do
  let s ← s.dropKey
  let (text, cursor) ← blockText (style = .folded) s.least (s.cursor.drop 1)
  return ({ s with cursor }.allowKey true).push (.scalar text style)

/-- Whether a plain text can start with a character, given the next one. -/
def startsPlain (inFlow : Bool) (c : Char) (next? : Option Char) : Bool :=
  !(isGap c || isFlowMark c ||
      ['-', '?', ':', '#', '&', '*', '!', '|', '>', '\x27', '"', '%', '@', '\x60'].contains c) ||
    (c = '-' && !next?.any isBlankChar) ||
    (!inFlow && (c = '?' || c = ':') && !endsWord next?)

/-- Reads the token that starts with a character. -/
def readToken (s : Scan) (c : Char) (next? : Option Char) : Except Fault Scan :=
  let standsAlone := endsWord next?
  if s.column = 0 ∧ c = '%' then s.readDirective
  else if s.cursor.isAtMark '-' then s.readMark .documentStart
  else if s.cursor.isAtMark '.' then s.readMark .documentEnd
  else if c = '[' then s.readOpening .flowSequence
  else if c = '{' then s.readOpening .flowMapping
  else if c = ']' then s.readClosing .flowSequenceEnd
  else if c = '}' then s.readClosing .flowMappingEnd
  else if c = ',' then s.readComma
  else if c = '-' ∧ standsAlone then s.readItem
  else if c = '?' ∧ (s.inFlow ∨ standsAlone) then s.readKey
  else if c = ':' ∧ (s.inFlow ∨ standsAlone) then s.readValue
  else if c = '*' then
    s.readKeyable fun p => (anchorName (p.drop 1)).map fun q => (.alias q.1, q.2)
  else if c = '&' then
    s.readKeyable fun p => (anchorName (p.drop 1)).map fun q => (.anchor q.1, q.2)
  else if c = '!' then s.readKeyable fun p => (tagName s.inFlow p).map fun q => (.tag q.1, q.2)
  else if c = '|' ∧ !s.inFlow then s.readBlock .literal
  else if c = '>' ∧ !s.inFlow then s.readBlock .folded
  else if c = '\x27' then
    s.readKeyable fun p => (quotedText c p).map fun q => (.scalar q.1 .singleQuoted, q.2)
  else if c = '"' then
    s.readKeyable fun p => (quotedText c p).map fun q => (.scalar q.1 .doubleQuoted, q.2)
  else if startsPlain s.inFlow c next? then s.readPlain
  else .error .badStart

/-- Reads the next token with the gap in front of it. -/
def next (s : Scan) : Except Fault Scan := do
  let s ← (s.skipGaps (s.cursor.rest.length + 1)).dropStaleKeys
  let s := s.closeBlocks (some s.column)
  match s.cursor.rest with
  | [] => s.readEnd
  | c :: r => s.readToken c r.head?

/-- Reads all tokens. -/
def run : Nat → Scan → Except Fault Scan
  | 0, s => .ok s
  | fuel + 1, s => do
    let s ← s.next
    if s.tokens.back? = some .textEnd then return s else run fuel s

end Scan

/-- The tokens of a text. -/
def tokensOf (cs : List Char) : Except Fault (List Token) := do
  let s ← Scan.run (cs.length + 1) (.start cs)
  return s.tokens.toList

end DocLint.Yaml
