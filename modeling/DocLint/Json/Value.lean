import DocLint.Json.Grammar
import DocLint.Json.Number

/-!
# JSON values

A value as a tree without places. An object keeps its keys in order and has each of them once: a key
that the text repeats keeps its first place and takes its last value.

`Value.read?` reads a text, `Value.compact` writes a value on one line and `Value.pretty` with two
spaces of indentation for each level.
-/

namespace DocLint.Json

open DocLint.Text

/-- A JSON value. -/
inductive Value where
  /-- The absent value. -/
  | null
  /-- A truth value. -/
  | boolean (value : Bool)
  /-- A number. -/
  | number (value : Number)
  /-- A text. -/
  | string (value : String)
  /-- A list of values. -/
  | array (items : List Value)
  /-- Values under keys. -/
  | object (entries : List (String × Value))
  deriving Repr

/-- Puts a value under a key: in the key's place if it has one, else at the end. -/
def putEntry (key : String) (v : Value) : List (String × Value) → List (String × Value)
  | [] => [(key, v)]
  | (k, w) :: r => if k = key then (k, v) :: r else (k, w) :: putEntry key v r

namespace Value

mutual

/-- Reads the value in front of a text. The fuel bounds the number of parts within the value. -/
def readFront? : Nat → List Char → Option (Value × List Char)
  | 0, _ => none
  | fuel + 1, cs =>
    match skipSpace cs with
    | [] => none
    | c :: r =>
      if c = '"' then
        match decodeInside r with
        | .ok (s, r') => some (.string (String.ofList s), r')
        | .error _ => none
      else if c = '[' then
        match skipSpace r with
        | [] => none
        | d :: r' =>
          if d = ']' then some (.array [], r')
          else (readItems? fuel (d :: r')).map fun p => (.array p.1, p.2)
      else if c = '{' then
        match skipSpace r with
        | [] => none
        | d :: r' =>
          if d = '}' then some (.object [], r')
          else (readEntries? fuel [] (d :: r')).map fun p => (.object p.1, p.2)
      else if c = 'n' then some (.null, r.drop 3)
      else if c = 't' then some (.boolean true, r.drop 3)
      else if c = 'f' then some (.boolean false, r.drop 4)
      else
        (Number.ofLiteral? ((c :: r).takeWhile isNumberChar)).map fun n =>
          (.number n, (c :: r).dropWhile isNumberChar)

/-- Reads the items of a list, at least one, and the end of the list. -/
def readItems? : Nat → List Char → Option (List Value × List Char)
  | 0, _ => none
  | fuel + 1, cs => do
    let (v, r) ← readFront? fuel cs
    match skipSpace r with
    | [] => none
    | c :: r' =>
      if c = ',' then
        let (vs, r'') ← readItems? fuel r'
        return (v :: vs, r'')
      else return ([v], r')

/-- Reads the entries of an object, at least one, and the end of the object; `done` holds the entries
that came before. -/
def readEntries? : Nat → List (String × Value) → List Char →
    Option (List (String × Value) × List Char)
  | 0, _, _ => none
  | fuel + 1, done, cs =>
    match decodeFront (skipSpace cs) with
    | .error _ => none
    | .ok (key, r) => do
      let (v, r) ← readFront? fuel ((skipSpace r).drop 1)
      let done := putEntry (String.ofList key) v done
      match skipSpace r with
      | [] => none
      | c :: r' => if c = ',' then readEntries? fuel done r' else return (done, r')

end

/-- Reads a text that is one value; none if it is not JSON or a literal has no value. -/
def read? (cs : List Char) : Option Value :=
  match check cs with
  | .ok _ => (readFront? (2 * cs.length + 2) cs).map (·.1)
  | .error _ => none

/-- The characters of a truth value. -/
def booleanChars : Bool → List Char
  | true => ['t', 'r', 'u', 'e']
  | false => ['f', 'a', 'l', 's', 'e']

mutual

/-- Writes a value on one line, without spaces. -/
def compactChars : Value → List Char
  | null => ['n', 'u', 'l', 'l']
  | boolean b => booleanChars b
  | number n => n.chars
  | string s => encode s.toList
  | array items => '[' :: (compactItems items ++ [']'])
  | object entries => '{' :: (compactEntries entries ++ ['}'])

/-- Writes the items of a list, with commas between them. -/
def compactItems : List Value → List Char
  | [] => []
  | [v] => compactChars v
  | v :: w :: r => compactChars v ++ ',' :: compactItems (w :: r)

/-- Writes the entries of an object, with commas between them. -/
def compactEntries : List (String × Value) → List Char
  | [] => []
  | [(k, v)] => encode k.toList ++ ':' :: compactChars v
  | (k, v) :: e :: r => encode k.toList ++ ':' :: (compactChars v ++ ',' :: compactEntries (e :: r))

end

/-- A line break and the indentation of a level. -/
def newLine (level : Nat) : List Char :=
  '\n' :: List.replicate (2 * level) ' '

mutual

/-- Writes a value with each item and entry on a line of its own, two spaces deeper than its parent. An
empty list or object stays on its line. -/
def prettyChars (level : Nat) : Value → List Char
  | null => ['n', 'u', 'l', 'l']
  | boolean b => booleanChars b
  | number n => n.chars
  | string s => encode s.toList
  | array [] => ['[', ']']
  | array (v :: r) => '[' :: (prettyItems (level + 1) (v :: r) ++ (newLine level ++ [']']))
  | object [] => ['{', '}']
  | object (e :: r) => '{' :: (prettyEntries (level + 1) (e :: r) ++ (newLine level ++ ['}']))

/-- Writes the items of a list, each on its line. -/
def prettyItems (level : Nat) : List Value → List Char
  | [] => []
  | [v] => newLine level ++ prettyChars level v
  | v :: w :: r => newLine level ++ (prettyChars level v ++ ',' :: prettyItems level (w :: r))

/-- Writes the entries of an object, each on its line. -/
def prettyEntries (level : Nat) : List (String × Value) → List Char
  | [] => []
  | [(k, v)] => newLine level ++ (encode k.toList ++ ':' :: ' ' :: prettyChars level v)
  | (k, v) :: e :: r =>
    newLine level ++
      (encode k.toList ++ ':' :: ' ' :: (prettyChars level v ++ ',' :: prettyEntries level (e :: r)))

end

/-- A value on one line. -/
def compact (v : Value) : String :=
  String.ofList v.compactChars

/-- A value on indented lines. -/
def pretty (v : Value) : String :=
  String.ofList (v.prettyChars 0)

/-- A natural number as a value. -/
def nat (n : Nat) : Value := .number (.integer n)

end Value

end DocLint.Json
