import DocLint.Json.Quoted

/-!
# The grammar of JSON

A checker that passes over a text without decoding anything, as the first pass of `parse_json` does:
one value with white space around it and nothing after it. Nesting is not limited, numbers of any
size and surrogates of any kind pass. The first place where the text leaves the grammar is told
together with the cause.

Each function takes what is left of the text and gives what is left after the part it passed over.
-/

namespace DocLint.Json

open DocLint.Text

/-- The white space of JSON. -/
def isSpace (c : Char) : Bool :=
  c = ' ' || c = '\t' || c = '\n' || c = '\r'

/-- Passes over white space. -/
def skipSpace (cs : List Char) : List Char :=
  cs.dropWhile isSpace

/-- Passes over digits, at least one. -/
def passDigits : List Char → Except Halt (List Char)
  | [] => .error (.after .badNumber [])
  | c :: r => if isDigit c then .ok (r.dropWhile isDigit) else .error (.after .badNumber (c :: r))

/-- Passes over an exponent, if there is one. -/
def passExponent : List Char → Except Halt (List Char)
  | [] => .ok []
  | c :: r =>
    if c = 'e' ∨ c = 'E' then
      match r with
      | [] => passDigits []
      | s :: r' => if s = '+' ∨ s = '-' then passDigits r' else passDigits (s :: r')
    else .ok (c :: r)

/-- Passes over a fraction, if there is one. -/
def passFraction : List Char → Except Halt (List Char)
  | [] => .ok []
  | c :: r => if c = '.' then passDigits r else .ok (c :: r)

/-- Passes over the digits before the point: a lone zero, or digits that do not start with one. -/
def passWhole : List Char → Except Halt (List Char)
  | [] => .error (.after .badNumber [])
  | c :: r =>
    if c = '0' then
      match r with
      | [] => .ok []
      | d :: r' => if isDigit d then .error (.after .badNumber (d :: r')) else .ok (d :: r')
    else passDigits (c :: r)

/-- Passes over a number without its sign. -/
def passMagnitude (cs : List Char) : Except Halt (List Char) := do
  passExponent (← passFraction (← passWhole cs))

/-- Passes over the remaining letters of a word. -/
def passWord : List Char → List Char → Except Halt (List Char)
  | [], cs => .ok cs
  | _ :: _, [] => .error (.atEnd .endInValue)
  | w :: ws, c :: cs =>
    if c = w then passWord ws cs else .error (.after .expectedWord (c :: cs))

/-- Passes over the inside of a string and its closing quote. The digits of a numeric escape are looked
at when the escape is met and then passed over like any other characters. -/
def passString : List Char → Except Halt (List Char)
  | [] => .error (.atEnd .endInString)
  | x :: r =>
    if x = '"' then .ok r
    else if x = '\\' then
      match r with
      | [] => .error (.atEnd .endInString)
      | e :: r =>
        if e = 'u' then
          match r with
          | a :: b :: c :: d :: r' =>
            if (quad? a b c d).isSome then passString r' else .error (quadHalt r)
          | _ => .error (quadHalt r)
        else if (simpleEscape? e).isSome then passString r
        else .error (.after .badEscape (e :: r))
    else if x.toNat < 0x20 then .error (.before .controlCharacter (x :: r))
    else passString r

/-- What is being passed over. -/
inductive Part where
  /-- A value. -/
  | value
  /-- The rest of a list, after an item. -/
  | items
  /-- An entry of an object and the rest of the object, from the key on. -/
  | entries
  deriving DecidableEq, Repr

/-- Passes over a part of a text. The fuel bounds the number of parts within the part. -/
def pass : Nat → Part → List Char → Except Halt (List Char)
  | 0, _, _ => .error (.atEnd .endInValue)
  | fuel + 1, .value, cs =>
    match skipSpace cs with
    | [] => .error (.atEnd .endInValue)
    | c :: r =>
      if c = '"' then passString r
      else if c = '[' then
        match skipSpace r with
        | [] => .error (.atEnd .endInList)
        | d :: r' => if d = ']' then .ok r' else do pass fuel .items (← pass fuel .value (d :: r'))
      else if c = '{' then
        match skipSpace r with
        | [] => .error (.atEnd .endInObject)
        | d :: r' => if d = '}' then .ok r' else pass fuel .entries (d :: r')
      else if c = '-' then passMagnitude r
      else if isDigit c then passMagnitude (c :: r)
      else if c = 'n' then passWord ['u', 'l', 'l'] r
      else if c = 't' then passWord ['r', 'u', 'e'] r
      else if c = 'f' then passWord ['a', 'l', 's', 'e'] r
      else .error (.after .expectedValue (c :: r))
  | fuel + 1, .items, cs =>
    match skipSpace cs with
    | [] => .error (.atEnd .endInList)
    | c :: r =>
      if c = ']' then .ok r
      else if c = ',' then do pass fuel .items (← pass fuel .value r)
      else .error (.after .expectedListEnd (c :: r))
  | fuel + 1, .entries, cs =>
    match skipSpace cs with
    | [] => .error (.atEnd .endInObject)
    | c :: r =>
      if c ≠ '"' then .error (.after .keyNotString (c :: r))
      else do
        match skipSpace (← passString r) with
        | [] => .error (.atEnd .endInObject)
        | d :: r' =>
          if d ≠ ':' then .error (.after .expectedColon (d :: r'))
          else
            match skipSpace (← pass fuel .value r') with
            | [] => .error (.atEnd .endInObject)
            | e :: r'' =>
              if e = '}' then .ok r''
              else if e = ',' then pass fuel .entries r''
              else .error (.after .expectedObjectEnd (e :: r''))

/-- Passes over a whole text: a value and white space around it. -/
def passText (cs : List Char) : Except Halt Unit := do
  match skipSpace (← pass (cs.length + 1) .value cs) with
  | [] => .ok ()
  | c :: r => .error (.after .trailing (c :: r))

/-- Checks that a text is JSON. -/
def check (cs : List Char) : Except Fault Unit :=
  (passText cs).mapError fun h => h.locate cs

end DocLint.Json
