import DocLint.Yaml.Token
import DocLint.Yaml.Value

/-!
# Reading YAML

The grammar of tokens. A value in lines or in brackets may carry an anchor and a tag. An anchor is numbered
where its value starts, by the number of names that anchors have had before, so that two anchors share a
number once a name has been given twice.
-/

namespace DocLint.Yaml

/-- What is known while tokens are read. -/
structure Reading where
  /-- What is left of the tokens. -/
  tokens : List Token
  /-- What handles of tags stand for. -/
  handles : List (List Char × List Char)
  /-- The number of the last anchor of each name. -/
  names : List (List Char × Nat)
  /-- The values with anchors, each with its number. -/
  anchored : Array (Nat × Value)

/-- Reading tokens. -/
abbrev Reader := StateT Reading (Except Fault)

namespace Reader

/-- The next token. -/
def peek : Reader Token := do return (← get).tokens.headD .textEnd

/-- Passes over the next token. -/
def skip : Reader Unit := modify fun s => { s with tokens := s.tokens.tail }

/-- Numbers an anchor, if there is one, and gives the place of its value. -/
def reserve (name? : Option (List Char)) : Reader (Option Nat) := do
  match name? with
  | none => return none
  | some name =>
    let s ← get
    let number := s.names.length
    let names := (name, number) :: s.names.filter (·.1 ≠ name)
    set { s with names, anchored := s.anchored.push (number, .absent) }
    return some s.anchored.size

/-- Keeps the value of an anchor at its place. -/
def keep (place? : Option Nat) (v : Value) : Reader Value := do
  match place? with
  | none => return v
  | some place =>
    modify fun s => { s with anchored := s.anchored.modify place fun e => (e.1, v) }
    return v

/-- The anchor and the tag in front of a value. -/
structure Properties where
  /-- The name of the anchor. -/
  anchor? : Option (List Char)
  /-- The tag. -/
  tag? : Option TagName

/-- Reads an anchor, if one is next. -/
def anchor? : Reader (Option (List Char)) := do
  match ← peek with
  | .anchor name => do skip; return some name
  | _ => return none

/-- Reads a tag, if one is next. -/
def tag? : Reader (Option TagName) := do
  match ← peek with
  | .tag t => do skip; return some t
  | _ => return none

/-- Reads an anchor and a tag in either order. -/
def properties : Reader Properties := do
  match ← anchor? with
  | some name => return ⟨some name, ← tag?⟩
  | none =>
    let t ← tag?
    if t.isSome then return ⟨← anchor?, t⟩ else return ⟨none, none⟩

/-- A tag in full. -/
def fullTag (t : TagName) : Reader (List Char) := do
  if t.handle.isEmpty then return t.suffix
  match (← get).handles.find? (·.1 = t.handle) with
  | some h => return h.2 ++ t.suffix
  | none => throw .unknownHandle

/-- Where a value stands. -/
inductive Position where
  /-- In brackets. -/
  | flow
  /-- In lines. -/
  | block
  /-- In a mapping of lines, where the dashes of a list need no indentation. -/
  | mapping
  deriving DecidableEq

/-- Nothing where a value has to be, which an anchor or a tag makes an empty text. -/
def nothing (anchor? : Option (List Char)) (tag? : Option (List Char)) : Reader Value := do
  if anchor?.isNone && tag?.isNone then throw .noContent
  keep (← reserve anchor?) (.scalar ⟨"", .plain, tag?⟩)

/-- Reads a value, unless one of some tokens is next. -/
def absentAt (ends : List Token) (read : Reader Value) : Reader Value := do
  if ends.contains (← peek) then return .absent else read

/-- Reads a value behind the token that announces it, if that one is next. -/
def ifValue (read : Reader Value) : Reader Value := do
  if (← peek) = .value then
    skip
    read
  else return .absent

/-- Passes over the comma in front of what is next in brackets, unless it is the first or the last. -/
def separator (isFirst : Bool) (ending : Token) : Reader Unit := do
  let next ← peek
  if next = ending ∨ isFirst then return ()
  if next = .comma then skip else throw .openBracket

mutual

/-- Reads a value. -/
def value : Nat → Position → Reader Value
  | 0, _ => throw .noContent
  | fuel + 1, position => do
    if let .alias name ← peek then
      skip
      match (← get).names.find? (·.1 = name) with
      | some e => return .alias e.2
      | none => throw .unknownAnchor
    let p ← properties
    let tag? ← p.tag?.mapM fullTag
    let collection (read : Reader Value) : Reader Value := do
      let place? ← reserve p.anchor?
      keep place? (← read)
    match ← peek, position with
    | .scalar text style, _ => do
      skip
      keep (← reserve p.anchor?) (.scalar ⟨String.ofList text, style, tag?⟩)
    | .flowSequence, _ => do
      skip
      collection (.sequence <$> flowItems fuel true)
    | .flowMapping, _ => do
      skip
      collection (.mapping <$> flowEntries fuel true)
    | .item, .mapping => collection (.sequence <$> looseItems fuel)
    | .blockSequence, .block | .blockSequence, .mapping => do
      skip
      collection (.sequence <$> blockItems fuel)
    | .blockMapping, .block | .blockMapping, .mapping => do
      skip
      collection (.mapping <$> blockEntries fuel)
    | _, _ => nothing p.anchor? tag?

/-- Reads the items of a list whose dashes are indented. -/
def blockItems : Nat → Reader (List Value)
  | 0 => throw .badSequence
  | fuel + 1 => do
    match ← peek with
    | .blockEnd => do
      skip
      return []
    | .item => do
      skip
      let v ← absentAt [.item, .blockEnd] (value fuel .block)
      return v :: (← blockItems fuel)
    | _ => throw .badSequence

/-- Reads the items of a list whose dashes are not indented. -/
def looseItems : Nat → Reader (List Value)
  | 0 => throw .badSequence
  | fuel + 1 => do
    if (← peek) ≠ .item then return []
    skip
    let v ← absentAt [.item, .key, .value, .blockEnd] (value fuel .block)
    return v :: (← looseItems fuel)

/-- Reads the entries of a mapping in lines. -/
def blockEntries : Nat → Reader (List (Value × Value))
  | 0 => throw .badMapping
  | fuel + 1 => do
    let part := absentAt [.key, .value, .blockEnd] (value fuel .mapping)
    match ← peek with
    | .blockEnd => do
      skip
      return []
    | .key => do
      skip
      let k ← part
      let v ← ifValue part
      return (k, v) :: (← blockEntries fuel)
    | _ => throw .badMapping

/-- Reads the items of a list in brackets. An item may be a single entry of a mapping; where such an entry
has no key, the token behind it is passed over. -/
def flowItems : Nat → Bool → Reader (List Value)
  | 0, _ => throw .openBracket
  | fuel + 1, isFirst => do
    separator isFirst .flowSequenceEnd
    match ← peek with
    | .flowSequenceEnd => do
      skip
      return []
    | .key => do
      skip
      let k ←
        if [Token.value, .comma, .flowSequenceEnd].contains (← peek) then do
          skip
          pure .absent
        else value fuel .flow
      let v ← ifValue (absentAt [.comma, .flowSequenceEnd] (value fuel .flow))
      return .mapping [(k, v)] :: (← flowItems fuel false)
    | _ => do
      let v ← value fuel .flow
      return v :: (← flowItems fuel false)

/-- Reads the entries of a mapping in braces. -/
def flowEntries : Nat → Bool → Reader (List (Value × Value))
  | 0, _ => throw .openBracket
  | fuel + 1, isFirst => do
    separator isFirst .flowMappingEnd
    match ← peek with
    | .flowMappingEnd => do
      skip
      return []
    | .key => do
      skip
      let k ← absentAt [.value, .comma, .flowMappingEnd] (value fuel .flow)
      let v ← ifValue (absentAt [.comma, .flowMappingEnd] (value fuel .flow))
      return (k, v) :: (← flowEntries fuel false)
    | _ => do
      let k ← value fuel .flow
      return (k, .absent) :: (← flowEntries fuel false)

end

/-- Reads the directives in front of a document. Neither the version nor a handle may be given twice. -/
def directives : Nat → Bool → Reader Unit
  | 0, _ => return ()
  | fuel + 1, hasVersion => do
    match ← peek with
    | .directive (.version major minor) => do
      if hasVersion ∨ major ≠ 1 ∨ (minor ≠ 1 ∧ minor ≠ 2) then throw .badDirective
      skip
      directives fuel true
    | .directive (.handle name start) => do
      if (← get).handles.any (·.1 = name) then throw .badDirective
      modify fun s => { s with handles := s.handles ++ [(name, start)] }
      skip
      directives fuel hasVersion
    | _ => return ()

/-- The handles that need no directive. -/
def standardHandles : List (List Char × List Char) :=
  [(['!'], ['!']), (['!', '!'], "tag:yaml.org,2002:".toList)]

/-- Whether a document without a value ends in front of a token. -/
def endsDocument : Token → Bool
  | .directive _ => true
  | .documentStart => true
  | .documentEnd => true
  | .textEnd => true
  | _ => false

/-- Reads the value of the first document. It may do without a start mark, unless directives stand in front
of it. -/
def first (fuel : Nat) : Reader Value := do
  let next ← peek
  let isExplicit := endsDocument next && next ≠ .documentEnd
  if next = .textEnd then return .absent
  if isExplicit then directives fuel false
  modify fun s => { s with handles := s.handles ++ standardHandles }
  if !isExplicit then value fuel .block
  else if (← peek) ≠ .documentStart then throw .noDocumentStart
  else
    skip
    if endsDocument (← peek) then return .absent else value fuel .block

/-- Passes over the end marks of documents. -/
def skipEnds : Nat → Reader Unit
  | 0 => return ()
  | fuel + 1 => do
    if (← peek) = .documentEnd then
      skip
      skipEnds fuel

/-- Reads a document after which no other one follows. -/
def document (fuel : Nat) : Reader Value := do
  let v ← first fuel
  skipEnds fuel
  if (← peek) = .textEnd then return v else throw .severalDocuments

end Reader

/-- Reads a YAML text of one document. -/
def read (source : String) : Except Fault Document := do
  let cs := source.toList
  if !cs.all isPrintable then throw .badCharacter
  let tokens ← tokensOf (unifyBreaks cs)
  let (root, s) ← (Reader.document (2 * tokens.length + 2)).run ⟨tokens, [], [], #[]⟩
  return ⟨root, s.anchored.toList⟩

end DocLint.Yaml
