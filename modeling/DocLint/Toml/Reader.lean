import DocLint.Toml.Scalar

/-!
# Reading TOML

A document is a sequence of lines: entries, headers of tables and headers of lists of tables. While it is
read, every table remembers how it came about, since that decides whether it may be added to: a table
that only a longer header implied can still be given its own header, one with a header cannot get a
second one, and dotted keys end in a table that dotted keys made.
-/

namespace DocLint.Toml

open DocLint.Text

/-- How a table came about. -/
inductive Origin where
  /-- A longer header goes through it. -/
  | implied
  /-- It has a header of its own. -/
  | header
  /-- Dotted keys go through it. -/
  | dotted
  deriving DecidableEq, Repr

/-- What stands under a key while a document is being read. -/
inductive Item where
  /-- A finished value. -/
  | value (v : Value)
  /-- A table that may still grow. -/
  | table (origin : Origin) (entries : List (String × Item))
  /-- A list of tables, the last of which may still grow; that one comes first. -/
  | tables (current : List (String × Item)) (earlier : List (List (String × Item)))

/-- Entries while a document is being read. -/
abbrev Items := List (String × Item)

mutual

/-- The finished value of an item. -/
def Item.finish : Item → Value
  | .value v => v
  | .table _ entries => .table (finishItems entries)
  | .tables current earlier => .array (finishTables earlier [.table (finishItems current)])

/-- The finished values of entries. -/
def finishItems : List (String × Item) → List (String × Value)
  | [] => []
  | (k, i) :: r => (k, i.finish) :: finishItems r

/-- Puts the finished tables of a list, the last one first, in front of others. -/
def finishTables : List (List (String × Item)) → List Value → List Value
  | [], done => done
  | t :: r, done => finishTables r (.table (finishItems t) :: done)

end

/-- The item under a key. -/
def Items.get? (t : Items) (key : String) : Option Item :=
  (t.find? (·.1 = key)).map (·.2)

/-- Puts an item under a key: in the key's place if it has one, else at the end. -/
def Items.put (key : String) (i : Item) : Items → Items
  | [] => [(key, i)]
  | (k, j) :: r => if k = key then (k, i) :: r else (k, j) :: Items.put key i r

/-- Adds an entry under dotted keys. The way to it leads through no table with a header of its own, and the
table in which it ends is one that dotted keys made, unless the key has no dots. -/
def Items.insert (v : Value) : List String → Items → Except Cause Items
  | [], _ => .error .expectedKey
  | [key], t => if (t.get? key).isSome then .error .duplicateKey else .ok (t.put key (.value v))
  | k :: ks, t => do
    match t.get? k with
    | none => return t.put k (.table .dotted (← Items.insert v ks []))
    | some (.table o entries) =>
      if o = .header ∨ (o = .implied ∧ ks.length = 1) then throw .duplicateKey
      else return t.put k (.table o (← Items.insert v ks entries))
    | some (.tables current earlier) =>
      if ks.length = 1 then throw .duplicateKey
      else return t.put k (.tables (← Items.insert v ks current) earlier)
    | some (.value _) => throw .duplicateKey

/-- Changes the table at which a path of keys ends. Tables that are missing on the way are implied. -/
def Items.modifyAt (change : Items → Except Cause Items) : List String → Items → Except Cause Items
  | [], t => change t
  | k :: ks, t => do
    match t.get? k with
    | none => return t.put k (.table .implied (← Items.modifyAt change ks []))
    | some (.table o entries) => return t.put k (.table o (← Items.modifyAt change ks entries))
    | some (.tables current earlier) =>
      return t.put k (.tables (← Items.modifyAt change ks current) earlier)
    | some (.value _) => throw .duplicateTable

/-- Opens the table of a header. -/
def Items.openTable (keys : List String) (t : Items) : Except Cause Items :=
  match keys.getLast? with
  | none => .error .expectedKey
  | some key =>
    t.modifyAt (fun t =>
      match t.get? key with
      | none => .ok (t.put key (.table .header []))
      | some (.table .implied entries) => .ok (t.put key (.table .header entries))
      | some _ => .error .duplicateTable) keys.dropLast

/-- Opens a further table of the list of a header. -/
def Items.openListed (keys : List String) (t : Items) : Except Cause Items :=
  match keys.getLast? with
  | none => .error .expectedKey
  | some key =>
    t.modifyAt (fun t =>
      match t.get? key with
      | none => .ok (t.put key (.tables [] []))
      | some (.tables current earlier) => .ok (t.put key (.tables [] (current :: earlier)))
      | some _ => .error .duplicateTable) keys.dropLast

/-- Adds an entry to the table that the header before it opened. -/
def Items.insertUnder (header keys : List String) (v : Value) (t : Items) : Except Cause Items :=
  t.modifyAt (Items.insert v keys) header

/-- Passes over a comment, if there is one, up to the end of its line. -/
def skipComment (cs : List Char) : Except Halt (List Char) :=
  match cs with
  | '#' :: r =>
    let rest := r.dropWhile (!isForbidden ·)
    match rest with
    | [] => .ok []
    | _ => if (lineBreak? rest).isSome then .ok rest else .error ⟨.controlCharacter, rest⟩
  | _ => .ok cs

/-- Passes over blanks, comments and line breaks. -/
def skipLines : Nat → List Char → Except Halt (List Char)
  | 0, cs => .ok cs
  | fuel + 1, cs => do
    let r ← skipComment (skipBlanks cs)
    match lineBreak? r with
    | some r' => skipLines fuel r'
    | none => return r

/-- Passes over the rest of a line, which holds nothing but blanks and a comment. -/
def endLine (cs : List Char) : Except Halt (List Char) := do
  let r ← skipComment (skipBlanks cs)
  match r with
  | [] => return []
  | _ =>
    match lineBreak? r with
    | some r' => return r'
    | none => throw ⟨.expectedLineEnd, r⟩

/-- The characters of keys without quotes. -/
def isKeyChar (c : Char) : Bool :=
  c.isAlphanum || c = '_' || c = '-'

/-- Reads one key. -/
def key (cs : List Char) : Except Halt (String × List Char) :=
  match cs with
  | [] => .error ⟨.expectedKey, []⟩
  | c :: r =>
    if c = '"' ∨ c = '\x27' then
      (lineString c cs.length r).map fun p => (String.ofList p.1, p.2)
    else
      let name := cs.takeWhile isKeyChar
      if name.isEmpty then .error ⟨.expectedKey, cs⟩
      else .ok (String.ofList name, cs.dropWhile isKeyChar)

/-- Reads keys with dots between them. -/
def dottedKey : Nat → List Char → Except Halt (List String × List Char)
  | 0, cs => .error ⟨.expectedKey, cs⟩
  | fuel + 1, cs => do
    let (k, r) ← key (skipBlanks cs)
    match skipBlanks r with
    | '.' :: r' =>
      let (ks, rest) ← dottedKey fuel r'
      return (k :: ks, rest)
    | rest => return ([k], rest)

/-- How deeply arrays and inline tables may be nested, and how many keys may stand in a row. -/
def depthLimit : Nat := 80

/-- Reads the keys in front of an entry or within a header. -/
def keys (cs : List Char) : Except Halt (List String × List Char) := do
  let (ks, r) ← dottedKey (cs.length + 1) cs
  if depthLimit < ks.length then throw ⟨.tooDeep, cs⟩ else return (ks, r)

/-- Passes over an equals sign. -/
def equals : List Char → Except Halt (List Char)
  | '=' :: r => .ok r
  | r => .error ⟨.expectedEquals, r⟩

mutual

/-- Reads a value at a depth. The fuel bounds the number of values within it. -/
def value : Nat → Nat → List Char → Except Halt (Value × List Char)
  | 0, _, cs => .error ⟨.expectedValue, cs⟩
  | fuel + 1, depth, cs =>
    match cs with
    | [] => .error ⟨.expectedValue, []⟩
    | c :: r =>
      if c = '"' ∨ c = '\x27' then
        (string c cs).map fun p => (.string (String.ofList p.1), p.2)
      else if c = '[' ∨ c = '{' then
        if depthLimit ≤ depth then .error ⟨.tooDeep, cs⟩
        else if c = '[' then (arrayRest fuel (depth + 1) r).map fun p => (.array p.1, p.2)
        else (tableRest fuel (depth + 1) [] r).map fun p => (.table (finishItems p.1), p.2)
      else plain cs

/-- Reads the items of an array and its end. A comma may follow the last item. -/
def arrayRest : Nat → Nat → List Char → Except Halt (List Value × List Char)
  | 0, _, cs => .error ⟨.openArray, cs⟩
  | fuel + 1, depth, cs => do
    let r ← skipLines (cs.length + 1) cs
    match r with
    | [] => throw ⟨.openArray, []⟩
    | ']' :: r' => return ([], r')
    | _ =>
      let (v, r) ← value fuel depth r
      let r ← skipLines (r.length + 1) r
      match r with
      | ',' :: r' =>
        let (vs, rest) ← arrayRest fuel depth r'
        return (v :: vs, rest)
      | ']' :: r' => return ([v], r')
      | _ => throw ⟨.openArray, r⟩

/-- Reads the entries of an inline table and its end. A comma may follow the last entry. -/
def tableRest : Nat → Nat → Items → List Char → Except Halt (Items × List Char)
  | 0, _, _, cs => .error ⟨.openTable, cs⟩
  | fuel + 1, depth, done, cs => do
    let start ← skipLines (cs.length + 1) cs
    match start with
    | '}' :: r => return (done, r)
    | _ =>
      let (ks, r) ← keys start
      let r ← equals (← skipLines (r.length + 1) r)
      let (v, r) ← value fuel depth (← skipLines (r.length + 1) r)
      match Items.insert v ks done with
      | .error cause => throw ⟨cause, start⟩
      | .ok done =>
        let r ← skipLines (r.length + 1) r
        match r with
        | ',' :: r' => tableRest fuel depth done r'
        | '}' :: r' => return (done, r')
        | _ => throw ⟨.openTable, r⟩

end

/-- Reads a header after its opening brackets. -/
def header (closing : List Char) (cs : List Char) : Except Halt (List String × List Char) := do
  let (ks, r) ← keys cs
  if closing.isPrefixOf r then return (ks, r.drop closing.length)
  else throw ⟨.openHeader, r⟩

/-- Reads lines up to the end of the text. `under` is the header that entries belong to. -/
def readLines : Nat → List String → Items → List Char → Except Halt Items
  | 0, _, _, cs => .error ⟨.expectedLineEnd, cs⟩
  | fuel + 1, under, done, cs => do
    let r ← skipLines (cs.length + 1) cs
    let settle (x : Except Cause Items) : Except Halt Items := x.mapError fun cause => ⟨cause, r⟩
    match r with
    | [] => return done
    | '[' :: '[' :: r' =>
      let (ks, rest) ← header [']', ']'] r'
      let done ← settle (done.openListed ks)
      readLines fuel ks done (← endLine rest)
    | '[' :: r' =>
      let (ks, rest) ← header [']'] r'
      let done ← settle (done.openTable ks)
      readLines fuel ks done (← endLine rest)
    | _ =>
      let (ks, rest) ← keys r
      let rest := skipBlanks (← equals rest)
      let (v, rest) ← value (2 * rest.length + 2) 0 rest
      let done ← settle (done.insertUnder under ks v)
      readLines fuel under done (← endLine rest)

/-- Reads a TOML document. A byte order mark at the start is left out. -/
def read (source : String) : Except Fault Table :=
  let whole := source.toList
  let cs := if whole.head? = some '\ufeff' then whole.tail else whole
  match readLines (cs.length + 1) [] [] cs with
  | .ok items => .ok (finishItems items)
  | .error h => .error (h.locate whole)

end DocLint.Toml
