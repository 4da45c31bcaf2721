import DocLint.Document.Node
import DocLint.Json.Grammar

/-!
# Reading documents with their places

`parse_json` first checks a text against the grammar of JSON. Then a cursor (`Scanner`) walks over it once
more: it finds where each literal ends, keeps count of lines and columns, and has each literal decoded on its
own. A literal may still be refused there, for its value: a number too large, or half of a surrogate pair.
The place of such a refusal counts from the start of the literal.

A node's span goes from its first character to its last. The node of a mapping entry starts at its key.
-/

namespace DocLint

open DocLint.Text

/-- What the cursor itself can find wrong. None of it happens in a text that passed the check. -/
inductive Misfit where
  /-- Something else stands where `want` should; `found` is its first byte. -/
  | unexpected (want found : Char) (line column : Nat)
  /-- The text ends where `want` should stand. -/
  | ended (want : Char)
  /-- A string without a closing quote. -/
  | openString
  /-- A literal that is no scalar. -/
  | notScalar (literal : List Char)
  /-- The text ends where a value should stand. -/
  | noValue
  deriving DecidableEq, Repr

/-- The wording of a misfit. -/
def Misfit.message : Misfit → String
  | .unexpected w f l c =>
    "expected '" ++ w.toString ++ "' but found '" ++ f.toString ++ "' at " ++ ofNat l ++ ":" ++ ofNat c
  | .ended w => "expected '" ++ w.toString ++ "' but input ended"
  | .openString => "unterminated string"
  | .notScalar l => "unexpected literal " ++ String.ofList l
  | .noValue => "unexpected end of input"

/-- Why a text gives no document. -/
inductive ReadError where
  /-- The text is not JSON. -/
  | grammar (fault : Json.Fault)
  /-- A literal has no value; the place counts from its start. -/
  | literal (fault : Json.Fault)
  /-- The cursor lost its way. -/
  | misfit (cause : Misfit)
  deriving DecidableEq, Repr

/-- Why a text gives no document, as it is told to people. -/
def ReadError.message : ReadError → String
  | .grammar f => f.message
  | .literal f => f.message
  | .misfit c => c.message

/-- A place in a text (`Scanner`): what is left, how much has been passed, the line and column of the next
character and those of the last one. -/
structure Cursor where
  /-- What is left of the text. -/
  rest : List Char
  /-- The number of characters passed. -/
  offset : Nat
  /-- The line of the next character. -/
  line : Nat
  /-- The column of the next character. -/
  column : Nat
  /-- The line of the last character passed. -/
  lastLine : Nat
  /-- The column of the last character passed. -/
  lastColumn : Nat
  deriving DecidableEq, Repr

namespace Cursor

/-- The start of a text. -/
def start (cs : List Char) : Cursor := ⟨cs, 0, 1, 1, 1, 1⟩

/-- Passes one character, which is the next one (`Scanner::bump`). -/
def pass (k : Cursor) (c : Char) (rest : List Char) : Cursor :=
  if c = '\n' then ⟨rest, k.offset + 1, k.line + 1, 1, k.line, k.column⟩
  else ⟨rest, k.offset + 1, k.line, k.column + 1, k.line, k.column⟩

/-- Passes characters as long as they satisfy `p`, walking along what is left. -/
def passWhile (p : Char → Bool) (k : Cursor) : List Char → Cursor
  | [] => { k with rest := [] }
  | c :: r => if p c then passWhile p (k.pass c r) r else { k with rest := c :: r }

/-- Passes white space (`Scanner::skip_ws`). -/
def skipSpace (k : Cursor) : Cursor :=
  k.passWhile Json.isSpace k.rest

/-- Passes one character that has to be `want` (`Scanner::expect`). -/
def expect (k : Cursor) (want : Char) : Except ReadError Cursor :=
  match k.rest with
  | [] => .error (.misfit (.ended want))
  | c :: r =>
    if c = want then .ok (k.pass c r)
    else .error (.misfit (.unexpected want (firstByte c) k.line k.column))

/-- The span from a place to the last character passed (`Scanner::span_from`). -/
def spanFrom (origin k : Cursor) : Span :=
  ⟨origin.line, origin.column, k.lastLine, k.lastColumn⟩

/-- The characters between a cursor and a later one. -/
def between (origin k : Cursor) : List Char :=
  origin.rest.take (k.offset - origin.offset)

/-- Passes the inside of a string and its closing quote: the next quote that no backslash precedes. -/
def passString (k : Cursor) : List Char → Except ReadError Cursor
  | [] => .error (.misfit .openString)
  | c :: r =>
    if c = '"' then .ok (k.pass c r)
    else if c = '\\' then
      match r with
      | [] => .error (.misfit .openString)
      | e :: r' => ((k.pass c r).pass e r').passString r'
    else (k.pass c r).passString r

/-- The characters that end a literal other than a string. -/
def endsLiteral (c : Char) : Bool :=
  Json.isSpace c || c = ',' || c = ']' || c = '}' || c = ':'

/-- Passes a literal other than a string. -/
def passLiteral (k : Cursor) : Cursor :=
  k.passWhile (fun c => !endsLiteral c) k.rest

end Cursor

/-- The scalar that a literal other than a string stands for. -/
def Scalar.ofLiteral (cs : List Char) : Except ReadError Scalar :=
  if cs = ['n', 'u', 'l', 'l'] then .ok .null
  else if cs = ['t', 'r', 'u', 'e'] then .ok (.boolean true)
  else if cs = ['f', 'a', 'l', 's', 'e'] then .ok (.boolean false)
  else if cs.all Json.isNumberChar then
    match Json.Number.ofLiteral? cs with
    | some n => .ok (.number n)
    | none =>
      .error (.literal ((Json.Halt.before .numberOutOfRange (Json.Literal.excessRest cs)).locate cs))
  else .error (.misfit (.notScalar cs))

namespace Reader

/-- Reads a string and decodes it (`Scanner::string`). -/
def string (k : Cursor) : Except ReadError (String × Cursor) := do
  let inside ← k.expect '"'
  let after ← inside.passString inside.rest
  match Json.decode (k.between after) with
  | .ok s => .ok (String.ofList s, after)
  | .error f => .error (.literal f)

mutual

/-- Reads the value at the cursor (`Scanner::value`). The fuel bounds the number of parts within the value. -/
def value : Nat → Cursor → Except ReadError (Node × Cursor)
  | 0, _ => .error (.misfit .noValue)
  | fuel + 1, k =>
    match k.rest with
    | [] => .error (.misfit .noValue)
    | c :: r =>
      if c = '{' then do
        let inside := (k.pass c r).skipSpace
        match inside.rest with
        | '}' :: r' =>
          let after := inside.pass '}' r'
          return (.mapping Path.root (k.spanFrom after) [], after)
        | _ =>
          let (entries, after) ← entries fuel inside
          return (.mapping Path.root (k.spanFrom after) entries, after)
      else if c = '[' then do
        let inside := (k.pass c r).skipSpace
        match inside.rest with
        | ']' :: r' =>
          let after := inside.pass ']' r'
          return (.sequence Path.root (k.spanFrom after) [], after)
        | _ =>
          let (items, after) ← items fuel inside
          return (.sequence Path.root (k.spanFrom after) items, after)
      else if c = '"' then do
        let (s, after) ← string k
        return (.scalar Path.root (k.spanFrom after) (.string s), after)
      else do
        let after := k.passLiteral
        let scalar ← Scalar.ofLiteral (k.between after)
        return (.scalar Path.root (k.spanFrom after) scalar, after)

/-- Reads the items of a sequence, at least one, and the end of the sequence (`Scanner::sequence`). -/
def items : Nat → Cursor → Except ReadError (List Node × Cursor)
  | 0, _ => .error (.misfit .noValue)
  | fuel + 1, k => do
    let (n, after) ← value fuel k.skipSpace
    let after := after.skipSpace
    match after.rest with
    | ',' :: r =>
      let (ns, last) ← items fuel (after.pass ',' r)
      return (n :: ns, last)
    | _ => return ([n], ← after.expect ']')

/-- Reads the entries of a mapping, at least one, and the end of the mapping (`Scanner::mapping`). -/
def entries : Nat → Cursor → Except ReadError (List (String × Node) × Cursor)
  | 0, _ => .error (.misfit .noValue)
  | fuel + 1, k => do
    let start := k.skipSpace
    let (key, after) ← string start
    let colon ← after.skipSpace.expect ':'
    let (n, after) ← value fuel colon.skipSpace
    let n := n.withSpan (start.spanFrom after)
    let after := after.skipSpace
    match after.rest with
    | ',' :: r =>
      let (es, last) ← entries fuel (after.pass ',' r)
      return ((key, n) :: es, last)
    | _ => return ([(key, n)], ← after.expect '}')

end

/-- Reads the value of a text, without looking at what follows it. -/
def text (cs : List Char) : Except ReadError (Node × Cursor) :=
  value (2 * cs.length + 2) (Cursor.start cs).skipSpace

end Reader

/-- Reads a JSON text as a document (`parse_json`). -/
def Document.read (source : String) : Except ReadError Document := do
  let cs := source.toList
  match Json.check cs with
  | .error f => .error (.grammar f)
  | .ok _ =>
    let (root, _) ← Reader.text cs
    return Document.ofTree root

end DocLint
