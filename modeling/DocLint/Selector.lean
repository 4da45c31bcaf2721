import DocLint.Document.Node

/-!
# Selectors

A selector names places of a document: keys, indices and wildcards, to be followed from the root. It is read
by `Selector::parse` and written with dots (`sections.*.title`), with brackets (`$["odd key"][0][*]`) or with
both. The leading `$` and the dot before the first name may be left out.

Following a selector (`Selector::select`) gives the nodes it reaches and, for every branch that ends early,
the node where it ends and what is missing there. A wildcard takes every child and never misses.
-/

namespace DocLint

open DocLint.Text

/-- One step of a selector (`SelectorStep`). -/
inductive Step where
  /-- The child under a key. -/
  | key (name : String)
  /-- The child at an index. -/
  | index (place : Nat)
  /-- Every child. -/
  | any
  deriving DecidableEq, Repr

/-- Why a text is no selector. -/
inductive SelectorError where
  /-- A dot without a name. -/
  | emptySegment
  /-- An index that is no number, or too large. -/
  | invalidIndex (token : List Char)
  /-- A quoted key without a closing quote. -/
  | unterminatedKey
  /-- A quoted key that cannot be decoded. -/
  | invalidKey (literal : List Char) (fault : Json.Fault)
  /-- A quoted key that no bracket closes. -/
  | expectedBracket
  /-- An opening bracket without a closing one. -/
  | unclosedBracket
  /-- Neither a dot nor a bracket. -/
  | unexpected (rest : List Char)
  deriving DecidableEq, Repr

/-- Why a text is no selector, as it is told to people. -/
def SelectorError.message : SelectorError → String
  | .emptySegment => "empty segment"
  | .invalidIndex t => "invalid index '" ++ String.ofList t ++ "'"
  | .unterminatedKey => "unterminated quoted key"
  | .invalidKey l f => "invalid quoted key " ++ String.ofList l ++ ": " ++ f.message
  | .expectedBracket => "expected ']' after quoted key"
  | .unclosedBracket => "unclosed '['"
  | .unexpected r => "unexpected input at '" ++ String.ofList r ++ "'"

/-- A selector: its text and the steps it stands for. -/
structure Selector where
  /-- The text, trimmed. -/
  text : String
  /-- The steps. -/
  steps : List Step
  deriving DecidableEq, Repr

namespace Selector

/-- How far the closing quote lies from the start (`closing_quote`): the next quote that no backslash
precedes. `escaped` tells whether a backslash precedes the start. -/
def closingQuote? (escaped : Bool) : List Char → Option Nat
  | [] => none
  | c :: r =>
    if escaped then (closingQuote? false r).map (· + 1)
    else if c = '\\' then (closingQuote? true r).map (· + 1)
    else if c = '"' then some 0
    else (closingQuote? false r).map (· + 1)

/-- The step that a dotted name stands for. A name of digits alone is an index. -/
def dotted (token : List Char) : Except SelectorError Step :=
  if token.isEmpty then .error .emptySegment
  else if token = ['*'] then .ok .any
  else if token.all isDigit then
    match word? token with
    | some n => .ok (.index n)
    | none => .error (.invalidIndex token)
  else .ok (.key (String.ofList token))

/-- The step that an unquoted token in brackets stands for. -/
def bracketed (token : List Char) : Except SelectorError Step :=
  if token = ['*'] then .ok .any
  else
    match signedWord? token with
    | some n => .ok (.index n)
    | none => .error (.invalidIndex token)

/-- The characters that end a dotted name. -/
def endsName (c : Char) : Bool := c = '.' || c = '['

/-- Reads a quoted key in brackets, from its opening quote on. Gives the key and what follows the
closing bracket. -/
def quoted (cs : List Char) : Except SelectorError (Step × List Char) :=
  match closingQuote? false cs.tail with
  | none => .error .unterminatedKey
  | some n =>
    let literal := cs.take (n + 2)
    match Json.decode literal with
    | .error f => .error (.invalidKey literal f)
    | .ok key =>
      match cs.drop (n + 2) with
      | ']' :: r => .ok (.key (String.ofList key), r)
      | _ => .error .expectedBracket

/-- Reads the step in front of a text. Gives the step and what follows it. -/
def step : List Char → Except SelectorError (Step × List Char)
  | [] => .error .emptySegment
  | c :: r =>
    if c = '.' then
      (dotted (r.takeWhile (!endsName ·))).map fun s => (s, r.dropWhile (!endsName ·))
    else if c = '[' then
      if r.head? = some '"' then quoted r
      else
        match r.dropWhile (· ≠ ']') with
        | [] => .error .unclosedBracket
        | _ :: r' => (bracketed (trimChars (r.takeWhile (· ≠ ']')))).map fun s => (s, r')
    else .error (.unexpected (c :: r))

/-- Reads steps up to the end of the text. Each takes at least one character, so the length of the text
is fuel enough. -/
def steps? : Nat → List Char → Except SelectorError (List Step)
  | _, [] => .ok []
  | 0, c :: r => .error (.unexpected (c :: r))
  | fuel + 1, c :: r =>
    match step (c :: r) with
    | .error e => .error e
    | .ok (s, r') => (steps? fuel r').map (s :: ·)

/-- The steps as they are read: without the leading `$`, and with the dot before the first name. -/
def body (cs : List Char) : List Char :=
  let cs := if cs.head? = some '$' then cs.tail else cs
  match cs with
  | [] => []
  | c :: r => if endsName c then c :: r else '.' :: c :: r

/-- Reads a selector (`Selector::parse`). -/
def read (s : String) : Except SelectorError Selector :=
  let b := body (trimChars s.toList)
  (steps? b.length b).map fun ss => ⟨trim s, ss⟩

end Selector

/-- What a selector finds at the end of one branch. -/
inductive Selected where
  /-- A node that all steps lead to. -/
  | found (node : Node)
  /-- The deepest node of a branch that ends early, and what is missing there. -/
  | missing (parent : Node) (error : NotFound)

/-- Follows steps from a node on (`walk`). -/
def Node.select (n : Node) : List Step → List Selected
  | [] => [.found n]
  | .any :: r => n.children.flatMap (·.select r)
  | .key k :: r =>
    match n.get? (.key k) with
    | .ok c => c.select r
    | .error e => [.missing n e]
  | .index i :: r =>
    match n.get? (.index i) with
    | .ok c => c.select r
    | .error e => [.missing n e]

/-- Follows a selector from a node on (`Selector::select`). -/
def Selector.select (s : Selector) (root : Node) : List Selected :=
  root.select s.steps

end DocLint
