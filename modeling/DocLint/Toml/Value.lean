import DocLint.Toml.Moment

/-!
# TOML values

What a TOML document holds. Numbers that are no integers are kept as they are written.
-/

namespace DocLint.Toml

/-- A TOML value. -/
inductive Value where
  /-- A text. -/
  | string (value : String)
  /-- An integer. -/
  | integer (value : Int)
  /-- Any other number. -/
  | float (written : String)
  /-- A truth value. -/
  | boolean (value : Bool)
  /-- A date, a time or both. -/
  | moment (value : Moment)
  /-- A list of values. -/
  | array (items : List Value)
  /-- Values under keys. -/
  | table (entries : List (String × Value))
  deriving Repr

/-- The values of a table, by key. -/
abbrev Table := List (String × Value)

/-- The value under a key. -/
def Table.get? (t : Table) (key : String) : Option Value :=
  (t.find? (·.1 = key)).map (·.2)

mutual

/-- Whether every integer of a value fits a 64-bit word, signed or unsigned. -/
def Value.fitsWords : Value → Bool
  | .integer n => -9223372036854775808 ≤ n && n < 18446744073709551616
  | .array items => allFitWords items
  | .table entries => entriesFitWords entries
  | _ => true

/-- Whether every integer of some values fits a 64-bit word. -/
def allFitWords : List Value → Bool
  | [] => true
  | v :: r => v.fitsWords && allFitWords r

/-- Whether every integer of some entries fits a 64-bit word. -/
def entriesFitWords : List (String × Value) → Bool
  | [] => true
  | (_, v) :: r => v.fitsWords && entriesFitWords r

end

/-- What is wrong with a TOML text. -/
inductive Cause where
  /-- No key where one is expected. -/
  | expectedKey
  /-- No equals sign after a key. -/
  | expectedEquals
  /-- No value where one is expected. -/
  | expectedValue
  /-- A string without an end. -/
  | openString
  /-- An escape of no meaning. -/
  | badEscape
  /-- A control character. -/
  | controlCharacter
  /-- A number too large for its type. -/
  | numberOutOfRange
  /-- Arrays, inline tables or dotted keys nested too deeply. -/
  | tooDeep
  /-- An array without an end. -/
  | openArray
  /-- An inline table without an end. -/
  | openTable
  /-- A table header without an end. -/
  | openHeader
  /-- More text on the line. -/
  | expectedLineEnd
  /-- A key that is taken. -/
  | duplicateKey
  /-- A table that has been defined before. -/
  | duplicateTable
  deriving DecidableEq, Repr

/-- The wording of a cause. -/
def Cause.text : Cause → String
  | .expectedKey => "expected a key"
  | .expectedEquals => "expected an equals sign"
  | .expectedValue => "expected a value"
  | .openString => "unclosed string"
  | .badEscape => "invalid escape"
  | .controlCharacter => "invalid control character"
  | .numberOutOfRange => "number overflowed"
  | .tooDeep => "cannot recurse further"
  | .openArray => "unclosed array"
  | .openTable => "unclosed inline table"
  | .openHeader => "unclosed table header"
  | .expectedLineEnd => "expected the end of the line"
  | .duplicateKey => "duplicate key"
  | .duplicateTable => "duplicate table"

/-- A reader's refusal: the cause and what is left of the text. -/
structure Halt where
  /-- What is wrong. -/
  cause : Cause
  /-- What is left of the text. -/
  rest : List Char

/-- What is wrong with a text, and on which line. -/
structure Fault where
  /-- What is wrong. -/
  cause : Cause
  /-- The line, from one. -/
  line : Nat
  deriving DecidableEq, Repr

/-- The place of a refusal within the whole text that was read. -/
def Halt.locate (h : Halt) (whole : List Char) : Fault :=
  ⟨h.cause, 1 + (whole.take (whole.length - h.rest.length)).count '\n'⟩

/-- A fault as it is told to people. -/
def Fault.message (f : Fault) : String :=
  "TOML parse error at line " ++ toString f.line ++ ": " ++ f.cause.text

end DocLint.Toml
