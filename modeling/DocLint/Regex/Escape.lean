import DocLint.Regex.Flags

/-!
# Escapes of patterns

What a backslash introduces: a character by its letter, its number or itself, a class, or a condition on
a place.
-/

namespace DocLint.Regex

open DocLint.Text DocLint.Unicode

/-- What an escape stands for. -/
inductive Escaped where
  /-- One character. -/
  | char (c : Char)
  /-- One of the characters of a class. -/
  | cls (k : CharSet)
  /-- A place. -/
  | look (l : Look)

/-- The character with a number, if there is one. -/
def charOf? (n : Nat) : Option Char :=
  if n < 0xD800 ∨ (0xDFFF < n ∧ n ≤ 0x10FFFF) then some (Char.ofNat n) else none

/-- Reads exactly `count` hexadecimal digits. -/
def hexDigits (f : Flags) : Nat → Nat → List Char → Except PatternError (Nat × List Char)
  | 0, value, cs => .ok (value, cs)
  | count + 1, value, cs =>
    match cs with
    | [] => .error .badEscape
    | c :: r =>
      match hexValue? c with
      | some d => hexDigits f count (16 * value + d) (f.skip r)
      | none => .error .badEscape

/-- Reads the text up to a closing brace, leaving out what the flags leave out. -/
def braced (f : Flags) : Nat → List Char → Except PatternError (List Char × List Char)
  | 0, _ => .error .badEscape
  | fuel + 1, cs =>
    match f.skip cs with
    | [] => .error .badEscape
    | c :: r => if c = '}' then .ok ([], r) else (braced f fuel r).map fun p => (c :: p.1, p.2)

/-- Reads a character by its number, after the letter that announces it. Two digits stand for a byte where
Unicode is off, and no byte beyond ASCII is a text. -/
def numbered (f : Flags) (count : Nat) (cs : List Char) :
    Except PatternError (Escaped × List Char) := do
  let isByte := count = 2 && cs.head? ≠ some '{'
  let (n, r) ←
    match cs with
    | '{' :: r => do
      let (ds, r) ← braced f (r.length + 1) r
      match hexDigitsValue? ds with
      | some n => if ds.isEmpty then .error .badEscape else pure (n, f.skip r)
      | none => .error .badEscape
    | _ => hexDigits f count 0 cs
  match charOf? n with
  | some c => if isByte && !f.unicode && 0x7F < n then .error .notText else return (.char c, r)
  | none => .error .badEscape

/-- Splits a text at the first place where a mark stands. -/
def splitAt? (mark : List Char) : List Char → Option (List Char × List Char)
  | [] => none
  | c :: r =>
    if mark.isPrefixOf (c :: r) then some ([], (c :: r).drop mark.length)
    else (splitAt? mark r).map fun p => (c :: p.1, p.2)

/-- The characters that a property names, and whether those without it are meant; a mark may separate the
property from its value. -/
def named? (name : List Char) : Option (CharSet × Bool) :=
  let pair (p : List Char × List Char) (others : Bool) : Option (CharSet × Bool) :=
    (propertyValue? p.1 p.2).map (·, others)
  match splitAt? ['!', '='] name with
  | some p => pair p true
  | none =>
    match (splitAt? [':'] name).orElse fun _ => splitAt? ['='] name with
    | some p => pair p false
    | none => (property? name).map (·, false)

/-- Reads a property, after the letter that announces it. -/
def propertyClass (f : Flags) (negated : Bool) (cs : List Char) :
    Except PatternError (Escaped × List Char) := do
  let (name, r) ←
    match cs with
    | [] => .error .badEscape
    | '{' :: r => braced f (r.length + 1) r
    | c :: r => if c = '\\' then .error .badEscape else pure ([c], f.skip r)
  if !f.unicode then .error .notText
  match named? name with
  | some (k, others) => return (.cls (← f.negate (negated != others) (f.fold k)), r)
  | none => .error .unknownProperty

/-- The conditions on words that stand in braces. -/
def wordLook? (unicode : Bool) (name : List Char) : Option Look :=
  match String.ofList name with
  | "start" => some (.wordStart unicode)
  | "end" => some (.wordEnd unicode)
  | "start-half" => some (.wordStartHalf unicode)
  | "end-half" => some (.wordEndHalf unicode)
  | _ => none

/-- Reads the edge of a word: plain, or qualified in braces. Braces that hold no letters are left to be
read as a repetition. -/
def wordEdge (f : Flags) (cs : List Char) : Except PatternError (Escaped × List Char) := do
  let isNameChar : Char → Bool := fun c => c.isAlpha || c = '-'
  match cs with
  | '{' :: r =>
    match f.skip r with
    | [] => .error .badCount
    | c :: r' =>
      if isNameChar c then
        let (name, rest) ← braced f (r'.length + 2) (c :: r')
        match wordLook? f.unicode name with
        | some l => return (.look l, rest)
        | none => .error .badEscape
      else return (.look (.wordEdge f.unicode), cs)
  | _ => return (.look (.wordEdge f.unicode), cs)

/-- The characters that have a meaning of their own in patterns. -/
def isMeta (c : Char) : Bool :=
  ['\\', '.', '+', '*', '?', '(', ')', '|', '[', ']', '{', '}', '^', '$', '#', '&', '-', '~'].contains c

/-- The characters that may be escaped without need. -/
def isEscapable (c : Char) : Bool :=
  isMeta c || (c.toNat ≤ 0x7F && !c.isAlphanum && c ≠ '<' && c ≠ '>')

/-- Reads an escape, after its backslash. -/
def escape (f : Flags) : List Char → Except PatternError (Escaped × List Char)
  | [] => .error .badEscape
  | c :: r =>
    if isDigit c then .error .backReference
    else if c = 'x' then numbered f 2 (f.skip r)
    else if c = 'u' then numbered f 4 (f.skip r)
    else if c = 'U' then numbered f 8 (f.skip r)
    else if c = 'p' then propertyClass f false (f.skip r)
    else if c = 'P' then propertyClass f true (f.skip r)
    else if c = 'd' then .ok (.cls (CharClass.digit f.unicode), r)
    else if c = 's' then .ok (.cls (CharClass.space f.unicode), r)
    else if c = 'w' then .ok (.cls (CharClass.word f.unicode), r)
    else if c = 'D' then (f.negate true (CharClass.digit f.unicode)).map fun k => (.cls k, r)
    else if c = 'S' then (f.negate true (CharClass.space f.unicode)).map fun k => (.cls k, r)
    else if c = 'W' then (f.negate true (CharClass.word f.unicode)).map fun k => (.cls k, r)
    else if isEscapable c then .ok (.char c, r)
    else if c = 'a' then .ok (.char '\x07', r)
    else if c = 'f' then .ok (.char '\x0c', r)
    else if c = 't' then .ok (.char '\t', r)
    else if c = 'n' then .ok (.char '\n', r)
    else if c = 'r' then .ok (.char '\r', r)
    else if c = 'v' then .ok (.char '\x0b', r)
    else if c = 'A' then .ok (.look .textStart, r)
    else if c = 'z' then .ok (.look .textEnd, r)
    else if c = 'b' then wordEdge f r
    else if c = 'B' then .ok (.look (.noWordEdge f.unicode), r)
    else if c = '<' then .ok (.look (.wordStart f.unicode), r)
    else if c = '>' then .ok (.look (.wordEnd f.unicode), r)
    else .error .badEscape

end DocLint.Regex
