import DocLint.Text.Natural
import DocLint.Yaml.Cursor

/-!
# Tags, anchors and directives

A tag says of what kind a value is. It is written in full between angle brackets, or as a handle with a
suffix, where a directive in front of the document tells what the handle stands for. Bytes in tags that are
no letters can be written by their numbers.
-/

namespace DocLint.Yaml

open DocLint.Text

/-- A tag as it is written. -/
structure TagName where
  /-- The handle; it is empty if the suffix is the whole tag. -/
  handle : List Char
  /-- The suffix. -/
  suffix : List Char
  deriving DecidableEq, Repr

/-- What a directive says. -/
inductive Directive where
  /-- The version of the language. -/
  | version (major minor : Nat)
  /-- What a handle of tags stands for. -/
  | handle (name : List Char) (start : List Char)
  deriving DecidableEq, Repr

/-- Reads the name of an anchor or alias behind its sign. -/
def anchorName (c : Cursor) : Except Fault (List Char × Cursor) :=
  let name := c.takeWhile isNameChar
  let c := c.drop name.length
  let isEnd : Char → Bool := fun x => isGap x || ['?', ':', ',', ']', '}', '%', '@', '\x60'].contains x
  if name.isEmpty || !c.next?.all isEnd then .error .badName else .ok (name, c)

/-- The number of bytes of a character that a first byte announces. -/
def sequenceLength? (byte : Nat) : Option Nat :=
  if byte < 0x80 then some 1
  else if byte / 32 = 6 then some 2
  else if byte / 16 = 14 then some 3
  else if byte / 8 = 30 then some 4
  else none

/-- Reads a byte by its number, a percent sign and two digits. -/
def percentByte (c : Cursor) : Except Fault (Nat × Cursor) :=
  match c.rest with
  | '%' :: a :: b :: _ =>
    match hexDigitsValue? [a, b] with
    | some n => .ok (n, c.drop 3)
    | none => .error .badTag
  | _ => .error .badTag

/-- Reads bytes that continue a character. -/
def percentRest : Nat → Cursor → Except Fault (List Char × Cursor)
  | 0, c => .ok ([], c)
  | count + 1, c => do
    let (n, c) ← percentByte c
    if n / 64 ≠ 2 then throw .badTag
    let (more, c) ← percentRest count c
    return (Char.ofNat n :: more, c)

/-- Reads the bytes of one character, each by its number. -/
def percentBytes (c : Cursor) : Except Fault (List Char × Cursor) := do
  let (n, c) ← percentByte c
  match sequenceLength? n with
  | none => throw .badTag
  | some length =>
    let (more, c) ← percentRest (length - 1) c
    return (Char.ofNat n :: more, c)

/-- Whether a character can stand in a tag; brackets and commas can where the whole tag is in brackets. -/
def isTagChar (isWhole : Bool) (c : Char) : Bool :=
  isNameChar c ||
    [';', '/', '?', ':', '@', '&', '=', '+', '$', '.', '%', '!', '~', '*', '\x27', '(', ')'].contains c ||
    (isWhole && [',', '[', ']'].contains c)

/-- Reads the characters of a tag. -/
def tagChars (isWhole : Bool) : Nat → Cursor → Except Fault (List Char × Cursor)
  | 0, c => .ok ([], c)
  | fuel + 1, c =>
    match c.next?.filter (isTagChar isWhole) with
    | none => .ok ([], c)
    | some x => do
      let (bytes, c) ← if x = '%' then percentBytes c else .ok ([x], c.drop 1)
      let (more, c) ← tagChars isWhole fuel c
      return (bytes ++ more, c)

/-- What counts of a tag: a byte of the number zero ends it. -/
def beforeZero (text : List Char) : List Char := text.takeWhile (· ≠ '\x00')

/-- Reads the characters of a tag, at least one. -/
def tagText (isWhole : Bool) (c : Cursor) : Except Fault (List Char × Cursor) := do
  let (text, c) ← tagChars isWhole c.rest.length c
  if text.isEmpty then throw .badTag else return (beforeZero text, c)

/-- Reads a handle: an exclamation mark, or a name between two of them. Where no second one follows, gives
what could have been its start. -/
def tagHandle (c : Cursor) : List Char × Cursor :=
  let name := (c.drop 1).takeWhile isNameChar
  let c := c.drop (1 + name.length)
  if c.isAt '!' then ('!' :: name ++ ['!'], c.drop 1) else ('!' :: name, c)

/-- Whether a handle ends with an exclamation mark of its own. -/
def isClosed (handle : List Char) : Bool := 1 < handle.length && handle.getLast? = some '!'

/-- Reads a tag without looking at what follows. -/
def tagAlone (c : Cursor) : Except Fault (TagName × Cursor) := do
  if c.rest[1]? = some '<' then
    let (text, c) ← tagText true (c.drop 2)
    if c.isAt '>' then return (⟨[], text⟩, c.drop 1) else throw .badTag
  else
    let (handle, after) := tagHandle c
    if isClosed handle then
      let (suffix, c) ← tagText false after
      return (⟨handle, suffix⟩, c)
    else
      let (more, c) ← tagChars false after.rest.length after
      let suffix := beforeZero (handle.tail ++ more)
      if suffix.isEmpty then return (⟨[], ['!']⟩, c) else return (⟨['!'], suffix⟩, c)

/-- Reads a tag from its exclamation mark on. -/
def tagName (inFlow : Bool) (c : Cursor) : Except Fault (TagName × Cursor) := do
  let (t, c) ← tagAlone c
  if (inFlow && c.isAt ',') || endsWord c.next? then return (t, c) else throw .badTag

/-- Reads a number of a version, of at most nine digits. -/
def versionNumber (c : Cursor) : Except Fault (Nat × Cursor) :=
  let digits := c.takeWhile isDigit
  if digits.isEmpty ∨ 9 < digits.length then .error .badDirective
  else .ok (digitsValue digits, c.drop digits.length)

/-- Reads what a directive says about the version. -/
def versionDirective (c : Cursor) : Except Fault (Directive × Cursor) := do
  let (major, c) ← versionNumber (c.dropWhile isBlankChar)
  if !c.isAt '.' then throw .badDirective
  let (minor, c) ← versionNumber (c.drop 1)
  return (.version major minor, c)

/-- Reads what a directive says about a handle. -/
def handleDirective (c : Cursor) : Except Fault (Directive × Cursor) := do
  let c := c.dropWhile isBlankChar
  if !c.isAt '!' then throw .badDirective
  let (handle, c) := tagHandle c
  if (handle.length ≠ 1 && !isClosed handle) || !c.next?.any isBlankChar then throw .badDirective
  let (start, c) ← tagText true (c.dropWhile isBlankChar)
  if endsWord c.next? then return (.handle handle start, c) else throw .badDirective

/-- Reads a directive from its percent sign on to the end of its line. -/
def directive (c : Cursor) : Except Fault (Directive × Cursor) := do
  let name := (c.drop 1).takeWhile isNameChar
  let c := c.drop (1 + name.length)
  if !endsWord c.next? then throw .badDirective
  let (d, c) ←
    if name = "YAML".toList then versionDirective c
    else if name = "TAG".toList then handleDirective c
    else throw .badDirective
  return (d, ← c.endLine)

end DocLint.Yaml
