import DocLint.Json.Fault

/-!
# JSON string literals

`encode` writes a text as a JSON string literal, escaping only what has to be escaped. `decode` reads
any literal of the grammar, so a text has one written form and many that are read.

A character is written by a two-letter escape where JSON has one, by its number if it is another
control character below U+0020, and as itself otherwise.
-/

namespace DocLint.Json

open DocLint.Text

/-- One character as it stands inside a written literal. -/
def escape (c : Char) : List Char :=
  if c = '"' then ['\\', '"']
  else if c = '\\' then ['\\', '\\']
  else if c.toNat = 0x08 then ['\\', 'b']
  else if c.toNat = 0x0C then ['\\', 'f']
  else if c = '\n' then ['\\', 'n']
  else if c = '\r' then ['\\', 'r']
  else if c = '\t' then ['\\', 't']
  else if c.toNat < 0x20 then
    ['\\', 'u', '0', '0', hexDigit (c.toNat / 16), hexDigit (c.toNat % 16)]
  else [c]

/-- A text as a JSON string literal, quotes included. -/
def encode (cs : List Char) : List Char :=
  '"' :: (cs.flatMap escape ++ ['"'])

/-- The number that four hexadecimal digits stand for. -/
def quad? (a b c d : Char) : Option Nat :=
  hexDigitsValue? [a, b, c, d]

/-- Why the text does not go on with four hexadecimal digits. -/
def quadHalt (cs : List Char) : Halt :=
  if byteSize cs < 4 then .atEnd .endInString else ⟨.badEscape, cs, 4⟩

/-- What a two-letter escape stands for. -/
def simpleEscape? (c : Char) : Option Char :=
  if c = '"' then some '"'
  else if c = '\\' then some '\\'
  else if c = '/' then some '/'
  else if c = 'b' then some '\x08'
  else if c = 'f' then some '\x0c'
  else if c = 'n' then some '\n'
  else if c = 'r' then some '\r'
  else if c = 't' then some '\t'
  else none

/-- The numbers of the high surrogates. -/
def isHighSurrogate (n : Nat) : Bool := 0xD800 ≤ n && n ≤ 0xDBFF

/-- The numbers of the low surrogates. -/
def isLowSurrogate (n : Nat) : Bool := 0xDC00 ≤ n && n ≤ 0xDFFF

/-- The character that a surrogate pair stands for. -/
def surrogatePair (high low : Nat) : Char :=
  Char.ofNat (0x10000 + (high - 0xD800) * 0x400 + (low - 0xDC00))

/-- Why no escaped low surrogate follows a high one. -/
def lowSurrogateHalt : List Char → Halt
  | [] => .atEnd .endInString
  | b :: r =>
    if b = '\\' then
      match r with
      | [] => .atEnd .endInString
      | u :: r' =>
        if u = 'u' then
          match r' with
          | a :: b :: c :: d :: r'' =>
            if (quad? a b c d).isSome then .before .loneSurrogate r'' else quadHalt r'
          | _ => quadHalt r'
        else .after .unfinishedSurrogate r
    else .after .unfinishedSurrogate (b :: r)

/-- The escaped low surrogate in front of a text, if there is one. -/
def lowSurrogate? : List Char → Option Nat
  | '\\' :: 'u' :: a :: b :: c :: d :: _ => (quad? a b c d).filter isLowSurrogate
  | _ => none

/-- Reads the inside of a literal up to its closing quote. Gives the text and what follows the
quote. -/
def decodeInside : List Char → Except Halt (List Char × List Char)
  | [] => .error (.atEnd .endInString)
  | x :: r =>
    if x = '"' then .ok ([], r)
    else if x = '\\' then
      match r with
      | [] => .error (.atEnd .endInString)
      | e :: r =>
        if e = 'u' then
          match r with
          | a :: b :: c :: d :: r' =>
            match quad? a b c d with
            | none => .error (quadHalt r)
            | some n =>
              if isLowSurrogate n then .error (.before .loneSurrogate r')
              else if isHighSurrogate n then
                match lowSurrogate? r', r' with
                | some low, _ :: _ :: _ :: _ :: _ :: _ :: r'' =>
                  (decodeInside r'').map fun p => (surrogatePair n low :: p.1, p.2)
                | _, _ => .error (lowSurrogateHalt r')
              else (decodeInside r').map fun p => (Char.ofNat n :: p.1, p.2)
          | _ => .error (quadHalt r)
        else
          match simpleEscape? e with
          | some c => (decodeInside r).map fun p => (c :: p.1, p.2)
          | none => .error (.after .badEscape (e :: r))
    else if x.toNat < 0x20 then .error (.after .controlCharacter (x :: r))
    else (decodeInside r).map fun p => (x :: p.1, p.2)

/-- Reads a literal from its opening quote on. Gives the text and what follows the literal. -/
def decodeFront : List Char → Except Halt (List Char × List Char)
  | [] => .error (.atEnd .endInValue)
  | x :: r => if x = '"' then decodeInside r else .error (.after .expectedValue (x :: r))

/-- Decodes a text that is one literal and nothing else. Places count from its opening quote. -/
def decode (literal : List Char) : Except Fault (List Char) :=
  match decodeFront literal with
  | .ok (cs, []) => .ok cs
  | .ok (_, r) => .error ((Halt.after .trailing r).locate literal)
  | .error h => .error (h.locate literal)

end DocLint.Json
