import DocLint.Decimal.Binary
import DocLint.Toml.Value

/-!
# TOML scalars

Strings in their four forms, numbers, truth values, dates and times. An integer has to fit 128 bits,
signed or unsigned, and any other number has to have a double near it.
-/

namespace DocLint.Toml

open DocLint.Text DocLint.Decimal

/-- Characters that may not stand in a text as they are. A tab may. -/
def isForbidden (c : Char) : Bool :=
  (c.toNat < 0x20 && c ≠ '\t') || c.toNat = 0x7F

/-- The line break in front of a text, if there is one. -/
def lineBreak? : List Char → Option (List Char)
  | '\n' :: r => some r
  | '\r' :: '\n' :: r => some r
  | _ => none

/-- Reads `count` hexadecimal digits as a character. -/
def numberedChar? (count : Nat) (cs : List Char) : Option Char :=
  let ds := cs.take count
  if ds.length < count then none
  else
    match hexDigitsValue? ds with
    | some n =>
      if n < 0xD800 ∨ (0xDFFF < n ∧ n ≤ 0x10FFFF) then some (Char.ofNat n) else none
    | none => none

/-- Reads a character by its number of `count` hexadecimal digits. -/
def numbered (count : Nat) (cs : List Char) : Except Halt (Char × List Char) :=
  match numberedChar? count cs with
  | some x => .ok (x, cs.drop count)
  | none => .error ⟨.badEscape, cs⟩

/-- Reads an escape after its backslash. -/
def escape (cs : List Char) : Except Halt (Char × List Char) :=
  match cs with
  | [] => .error ⟨.openString, []⟩
  | c :: r =>
    if c = '"' then .ok ('"', r)
    else if c = '\\' then .ok ('\\', r)
    else if c = 'b' then .ok ('\x08', r)
    else if c = 't' then .ok ('\t', r)
    else if c = 'n' then .ok ('\n', r)
    else if c = 'f' then .ok ('\x0c', r)
    else if c = 'r' then .ok ('\r', r)
    else if c = 'e' then .ok ('\x1b', r)
    else if c = 'x' then numbered 2 r
    else if c = 'u' then numbered 4 r
    else if c = 'U' then numbered 8 r
    else .error ⟨.badEscape, cs⟩

/-- Reads a string on one line up to its closing quote. A literal string has no escapes. -/
def lineString (mark : Char) : Nat → List Char → Except Halt (List Char × List Char)
  | 0, cs => .error ⟨.openString, cs⟩
  | fuel + 1, cs =>
    match cs with
    | [] => .error ⟨.openString, []⟩
    | c :: r =>
      if c = mark then .ok ([], r)
      else if c = '\\' && mark = '"' then do
        let (x, r) ← escape r
        let (s, r) ← lineString mark fuel r
        return (x :: s, r)
      else if isForbidden c then .error ⟨.controlCharacter, cs⟩
      else (lineString mark fuel r).map fun p => (c :: p.1, p.2)

/-- Passes over blanks and tabs. -/
def skipBlanks (cs : List Char) : List Char :=
  cs.dropWhile fun c => c = ' ' || c = '\t'

/-- Passes over blanks, tabs and line breaks. -/
def skipBlankLines : Nat → List Char → List Char
  | 0, cs => cs
  | fuel + 1, cs =>
    match lineBreak? (skipBlanks cs) with
    | some r => skipBlankLines fuel r
    | none => skipBlanks cs

/-- What follows a backslash at the end of a line: the text from the next character on that is neither
blank nor a line break. None if more stands on the line of the backslash. -/
def continued? (cs : List Char) : Option (List Char) :=
  (lineBreak? (skipBlanks cs)).map fun r => skipBlankLines r.length r

/-- Reads a string over several lines up to its three closing quotes; up to two quotes more belong to
the string. -/
def blockString (mark : Char) : Nat → List Char → Except Halt (List Char × List Char)
  | 0, cs => .error ⟨.openString, cs⟩
  | fuel + 1, cs =>
    match cs with
    | [] => .error ⟨.openString, []⟩
    | c :: r =>
      if c = mark && r.take 2 = [mark, mark] then
        let more := ((r.drop 2).take 2).takeWhile (· = mark)
        .ok (more, (r.drop 2).drop more.length)
      else if c = '\\' && mark = '"' then
        match continued? r with
        | some r => blockString mark fuel r
        | none => do
          let (x, r) ← escape r
          let (s, r) ← blockString mark fuel r
          return (x :: s, r)
      else
        if isForbidden c && (lineBreak? cs).isNone then .error ⟨.controlCharacter, cs⟩
        else (blockString mark fuel r).map fun p => (c :: p.1, p.2)

/-- Reads a string in any form, its first quote having been seen. -/
def string (mark : Char) (cs : List Char) : Except Halt (List Char × List Char) :=
  if cs.take 3 = [mark, mark, mark] then
    let r := cs.drop 3
    blockString mark (r.length + 1) ((lineBreak? r).getD r)
  else lineString mark cs.length (cs.drop 1)

/-- Digits with single low lines between them. -/
def isGrouped (isDigit : Char → Bool) : List Char → Bool
  | [] => false
  | [c] => isDigit c
  | c :: '_' :: r => isDigit c && isGrouped isDigit r
  | c :: r => isDigit c && isGrouped isDigit r

/-- The value of digits in a base, low lines left out. -/
def groupedValue (base : Nat) (cs : List Char) : Nat :=
  (cs.filterMap hexValue?).foldl (fun n d => base * n + d) 0

/-- Digits that do not start with a superfluous zero. -/
def isWhole (cs : List Char) : Bool :=
  isGrouped isDigit cs && (cs.head? ≠ some '0' || cs.length == 1)

/-- The digits of an exponent, with a sign or without. -/
def isExponent : List Char → Bool
  | '+' :: r => isGrouped isDigit r
  | '-' :: r => isGrouped isDigit r
  | r => isGrouped isDigit r

/-- Whether an unsigned text is a number with a fraction, an exponent or both. -/
def isFloat (cs : List Char) : Bool :=
  let isMark : Char → Bool := fun c => c = 'e' || c = 'E'
  let mantissa := cs.takeWhile (!isMark ·)
  let whole := mantissa.takeWhile (· ≠ '.')
  let exponentFits :=
    match cs.dropWhile (!isMark ·) with
    | [] => mantissa.contains '.'
    | _ :: e => isExponent e
  let fractionFits :=
    match mantissa.dropWhile (· ≠ '.') with
    | [] => true
    | _ :: f => isGrouped isDigit f
  isWhole whole && fractionFits && exponentFits

/-- The double nearest to an unsigned number with a fraction, an exponent or both; none if it is too large
for a double. -/
def double? (cs : List Char) : Option Binary :=
  let cs := cs.filter (· ≠ '_')
  let isMark : Char → Bool := fun c => c = 'e' || c = 'E'
  let mantissa := cs.takeWhile (!isMark ·)
  let whole := mantissa.takeWhile (· ≠ '.')
  let fraction := (mantissa.dropWhile (· ≠ '.')).drop 1
  let exponent : Int :=
    match (cs.dropWhile (!isMark ·)).drop 1 with
    | '-' :: r => -(digitsValue r : Int)
    | '+' :: r => digitsValue r
    | r => digitsValue r
  Binary.ofDecimal? false (digitsValue (whole ++ fraction)) (exponent - fraction.length)

/-- Whether an integer fits 128 bits, signed or unsigned. -/
def fitsWide (n : Int) : Bool :=
  -170141183460469231731687303715884105728 ≤ n && n < 340282366920938463463374607431768211456

/-- The value of an integer, if it fits. -/
def integer (cs : List Char) (n : Int) : Except Halt Value :=
  if fitsWide n then .ok (.integer n) else .error ⟨.numberOutOfRange, cs⟩

/-- Reads a number. -/
def number (cs : List Char) : Except Halt Value :=
  let negative := cs.head? = some '-'
  let isSigned := negative || cs.head? = some '+'
  let body := if isSigned then cs.tail else cs
  if isWhole body then
    let n : Int := groupedValue 10 body
    integer cs (if negative then -n else n)
  else if body = ['i', 'n', 'f'] || body = ['n', 'a', 'n'] then .ok (.float (String.ofList cs))
  else if isFloat body then
    if (double? body).isSome then .ok (.float (String.ofList cs))
    else .error ⟨.numberOutOfRange, cs⟩
  else
    let inBase (base : Nat) (isDigit : Char → Bool) (r : List Char) : Except Halt Value :=
      if !isSigned && isGrouped isDigit r then integer cs (groupedValue base r)
      else .error ⟨.expectedValue, cs⟩
    match body with
    | '0' :: 'x' :: r => inBase 16 (fun c => (hexValue? c).isSome) r
    | '0' :: 'o' :: r => inBase 8 (fun c => '0' ≤ c && c ≤ '7') r
    | '0' :: 'b' :: r => inBase 2 (fun c => c = '0' || c = '1') r
    | _ => .error ⟨.expectedValue, cs⟩

/-- The characters of values that are written without quotes. -/
def isPlainChar (c : Char) : Bool :=
  c.isAlphanum || c = '_' || c = '+' || c = '-' || c = '.' || c = ':'

/-- A value that is written without quotes or brackets. -/
def plainValue (cs : List Char) : Except Halt Value :=
  if cs = ['t', 'r', 'u', 'e'] then .ok (.boolean true)
  else if cs = ['f', 'a', 'l', 's', 'e'] then .ok (.boolean false)
  else
    match Moment.read? cs with
    | some m => .ok (.moment m)
    | none => number cs

/-- Reads a value that is written without quotes or brackets. A date and a time may have a blank between
them. -/
def plain (cs : List Char) : Except Halt (Value × List Char) :=
  let word := cs.takeWhile isPlainChar
  let rest := cs.dropWhile isPlainChar
  let (word, rest) :=
    match rest with
    | ' ' :: r =>
      if (Date.read? word).isSome && (fixed? 2 (r.take 2)).isSome && r[2]? = some ':' then
        (word ++ ' ' :: r.takeWhile isPlainChar, r.dropWhile isPlainChar)
      else (word, rest)
    | _ => (word, rest)
  match plainValue word with
  | .ok v => .ok (v, rest)
  | .error h => .error ⟨h.cause, cs⟩

end DocLint.Toml
