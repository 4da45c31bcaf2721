import DocLint.Text.Natural
import DocLint.Text.Place

/-!
# Faults of a JSON text

A reader that refuses a text gives the cause and the place. Inside a reader the place is what is left
of the text (`Halt`); told to the outside, it is a line and a column (`Fault`).
-/

namespace DocLint.Json

open DocLint.Text

/-- What is wrong with a JSON text. -/
inductive Cause where
  /-- The text ends where a value is expected, or inside a word. -/
  | endInValue
  /-- The text ends inside a list. -/
  | endInList
  /-- The text ends inside an object. -/
  | endInObject
  /-- The text ends inside a string. -/
  | endInString
  /-- Something else stands where a value is expected. -/
  | expectedValue
  /-- A word other than `null`, `true` and `false`. -/
  | expectedWord
  /-- Neither a comma nor the end of the list follows an item. -/
  | expectedListEnd
  /-- Neither a comma nor the end of the object follows an entry. -/
  | expectedObjectEnd
  /-- No colon follows a key. -/
  | expectedColon
  /-- A key that is not a string. -/
  | keyNotString
  /-- More text after the value. -/
  | trailing
  /-- A number with a digit missing or superfluous. -/
  | badNumber
  /-- A number too large for a double. -/
  | numberOutOfRange
  /-- A backslash followed by something that is no escape. -/
  | badEscape
  /-- A control character that is not escaped. -/
  | controlCharacter
  /-- An escaped low surrogate without a high one, or the reverse. -/
  | loneSurrogate
  /-- An escaped high surrogate without a second escape. -/
  | unfinishedSurrogate
  deriving DecidableEq, Repr

/-- The wording of a cause. -/
def Cause.text : Cause → String
  | .endInValue => "EOF while parsing a value"
  | .endInList => "EOF while parsing a list"
  | .endInObject => "EOF while parsing an object"
  | .endInString => "EOF while parsing a string"
  | .expectedValue => "expected value"
  | .expectedWord => "expected ident"
  | .expectedListEnd => "expected `,` or `]`"
  | .expectedObjectEnd => "expected `,` or `\x7d`"
  | .expectedColon => "expected `:`"
  | .keyNotString => "key must be a string"
  | .trailing => "trailing characters"
  | .badNumber => "invalid number"
  | .numberOutOfRange => "number out of range"
  | .badEscape => "invalid escape"
  | .controlCharacter => "control character (\\u0000-\\u001F) found while parsing a string"
  | .loneSurrogate => "lone leading surrogate in hex escape"
  | .unfinishedSurrogate => "unexpected end of hex escape"

/-- A reader's refusal: the cause, what is left of the text, and how many bytes past that point the
place lies. -/
structure Halt where
  /-- What is wrong. -/
  cause : Cause
  /-- What is left of the text. -/
  rest : List Char
  /-- How many bytes of the rest still belong before the place. -/
  past : Nat
  deriving DecidableEq, Repr

/-- A refusal just before what is left. -/
def Halt.before (cause : Cause) (rest : List Char) : Halt := ⟨cause, rest, 0⟩

/-- A refusal just after the first byte of what is left; at the end of the text, right there. -/
def Halt.after (cause : Cause) (rest : List Char) : Halt :=
  ⟨cause, rest, if rest.isEmpty then 0 else 1⟩

/-- A refusal at the end of the text. -/
def Halt.atEnd (cause : Cause) : Halt := ⟨cause, [], 0⟩

/-- What is wrong with a text, and where. -/
structure Fault where
  /-- What is wrong. -/
  cause : Cause
  /-- The line of the place, from one. -/
  line : Nat
  /-- The number of bytes before the place on its line. -/
  column : Nat
  deriving DecidableEq, Repr

/-- The place of a refusal within the whole text that was read. -/
def Halt.locate (h : Halt) (whole : List Char) : Fault :=
  let place := lineColumn whole (byteSize whole - byteSize h.rest + h.past)
  ⟨h.cause, place.1, place.2⟩

/-- A fault as it is told to people. -/
def Fault.message (f : Fault) : String :=
  f.cause.text ++ " at line " ++ ofNat f.line ++ " column " ++ ofNat f.column

end DocLint.Json
