import DocLint.Regex.Expr
import DocLint.Text.Blank
import DocLint.Unicode.Folding

/-!
# Flags of patterns

Flags are set and cleared for the rest of a group, as in `(?i)`, or for a group of their own, as in
`(?i-s:…)`. This module also names everything that can be wrong with a pattern.
-/

namespace DocLint.Regex

open DocLint.Text

/-- Why a text is no pattern. -/
inductive PatternError where
  /-- A closing parenthesis without an opening one. -/
  | unopenedGroup
  /-- An opening parenthesis without a closing one. -/
  | unclosedGroup
  /-- Look-ahead or look-behind. -/
  | lookAround
  /-- A group name that is empty, malformed or taken. -/
  | badGroupName
  /-- A flag that is unknown, repeated or missing. -/
  | badFlag
  /-- A repetition of nothing. -/
  | nothingToRepeat
  /-- A counted repetition that is malformed or out of order. -/
  | badCount
  /-- A class without a closing bracket. -/
  | unclosedClass
  /-- A range whose ends are out of order or no characters. -/
  | badRange
  /-- An escape of no meaning at its place. -/
  | badEscape
  /-- A reference to a group. -/
  | backReference
  /-- A property of characters that does not exist. -/
  | unknownProperty
  /-- A part that could match half of a character. -/
  | notText
  /-- Nesting deeper than 250 levels. -/
  | tooDeep
  /-- A pattern that takes up more than ten mebibytes. -/
  | tooLarge
  deriving DecidableEq, Repr

/-- Why a text is no pattern, as it is told to people. -/
def PatternError.message : PatternError → String
  | .unopenedGroup => "unopened group"
  | .unclosedGroup => "unclosed group"
  | .lookAround => "look-around, including look-ahead and look-behind, is not supported"
  | .badGroupName => "invalid capture group name"
  | .badFlag => "invalid flag"
  | .nothingToRepeat => "repetition operator missing expression"
  | .badCount => "invalid repetition count"
  | .unclosedClass => "unclosed character class"
  | .badRange => "invalid character class range"
  | .badEscape => "unrecognized escape sequence"
  | .backReference => "backreferences are not supported"
  | .unknownProperty => "Unicode property not found"
  | .notText => "pattern can match invalid UTF-8"
  | .tooDeep => "exceeded the maximum number of nested parentheses/brackets"
  | .tooLarge => "compiled regex exceeds size limit"

/-- The flags in force at a place of a pattern. -/
structure Flags where
  /-- Letters match in either case. -/
  ignoreCase : Bool
  /-- `^` and `$` match at the ends of lines. -/
  multiLine : Bool
  /-- `.` matches line breaks. -/
  dotAll : Bool
  /-- Carriage returns end lines, too. -/
  anyBreak : Bool
  /-- Classes hold characters beyond ASCII. -/
  unicode : Bool
  /-- White space and comments in the pattern are ignored. -/
  verbose : Bool
  /-- Repetitions take as little as they can, and those with a question mark as much as they can. -/
  swapGreed : Bool
  deriving DecidableEq, Repr

/-- The flags at the start of a pattern. -/
def Flags.initial : Flags := ⟨false, false, false, false, true, false, false⟩

/-- Sets or clears the flag that a letter names. -/
def Flags.set? (f : Flags) (letter : Char) (on : Bool) : Option Flags :=
  match letter with
  | 'i' => some { f with ignoreCase := on }
  | 'm' => some { f with multiLine := on }
  | 's' => some { f with dotAll := on }
  | 'R' => some { f with anyBreak := on }
  | 'u' => some { f with unicode := on }
  | 'x' => some { f with verbose := on }
  | 'U' => some { f with swapGreed := on }
  | _ => none

/-- Reads flags up to the colon or the parenthesis that ends them. `seen` are the letters read so far,
the minus sign among them once it has been read. -/
def Flags.read (f : Flags) (seen : List Char) : List Char → Except PatternError (Flags × List Char)
  | [] => .error .badFlag
  | c :: r =>
    if c = ':' ∨ c = ')' then
      if seen.head? = some '-' then .error .badFlag else .ok (f, c :: r)
    else if seen.contains c then .error .badFlag
    else if c = '-' then f.read (c :: seen) r
    else
      match f.set? c (!seen.contains '-') with
      | some f' => f'.read (c :: seen) r
      | none => .error .badFlag

/-- Passes over white space and comments, if the flags ask for it. A comment goes from a number sign to
the end of its line. -/
def Flags.skip (f : Flags) (cs : List Char) : List Char :=
  if f.verbose then go false cs else cs
where
  /-- Passes over white space and comments; `comment` tells whether the text starts inside of one. -/
  go (comment : Bool) : List Char → List Char
    | [] => []
    | c :: r =>
      if comment then go (c ≠ '\n') r
      else if isBlank c then go false r
      else if c = '#' then go true r
      else c :: r

/-- What a look ahead leaves out: white space, and one number sign with the white space after it. -/
def skipMark (cs : List Char) : List Char :=
  match cs.dropWhile isBlank with
  | '#' :: r => r.dropWhile isBlank
  | r => r

/-- The character that a look past the first one finds. It leaves out white space, if the flags ask for it,
and of a comment the number sign alone; where nothing else is left, it finds the next character. -/
def Flags.peek (f : Flags) (cs : List Char) : Option Char :=
  let next := cs.tail
  if f.verbose then (skipMark next ++ next).head? else next.head?

/-- A class as the flags read it: with letters in either case. -/
def Flags.fold (f : Flags) (k : CharSet) : CharSet :=
  if f.ignoreCase then (if f.unicode then Unicode.closeCase k else Unicode.closeAsciiCase k) else k

/-- The complement of a class, if `negated`. Without Unicode a complement holds half characters. -/
def Flags.negate (f : Flags) (negated : Bool) (k : CharSet) : Except PatternError CharSet :=
  if negated then (if f.unicode then .ok k.compl else .error .notText) else .ok k

end DocLint.Regex
