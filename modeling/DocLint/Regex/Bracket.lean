import DocLint.Regex.Escape

/-!
# Bracketed classes of patterns

A bracketed class is a union of characters, ranges, escapes, named ASCII classes and further bracketed
classes. The operators `&&`, `--` and `~~` combine unions from left to right.
-/

namespace DocLint.Regex

open DocLint.Text

/-- A class and how deep its brackets and operators are nested. -/
structure Nested where
  /-- The class. -/
  cls : CharSet
  /-- The depth. -/
  depth : Nat

/-- An operator between unions. -/
inductive SetOp where
  /-- Intersection. -/
  | inter
  /-- Difference. -/
  | diff
  /-- Symmetric difference. -/
  | symmDiff
  deriving DecidableEq

/-- Applies an operator. -/
def SetOp.apply : SetOp → CharSet → CharSet → CharSet
  | inter, a, b => a.inter b
  | diff, a, b => a.diff b
  | symmDiff, a, b => a.symmDiff b

/-- The operator that two equal characters stand for. -/
def SetOp.ofChar? (c : Char) : Option SetOp :=
  if c = '&' then some inter
  else if c = '-' then some diff
  else if c = '~' then some symmDiff
  else none

/-- The union of the items of a set. -/
def unionOf : List Nested → Nested
  | [] => ⟨CharSet.empty, 0⟩
  | [n] => n
  | ns => ⟨CharSet.unionAll (ns.map (·.cls)), 1 + (ns.map (·.depth)).foldl max 0⟩

/-- What precedes an operator, and the operator. -/
abbrev Before := Option (Nested × SetOp)

/-- Combines what precedes an operator with the union that follows it. -/
def combine (f : Flags) (before : Before) (n : Nested) : Nested :=
  match before with
  | none => n
  | some (b, op) => ⟨op.apply (f.fold b.cls) (f.fold n.cls), 1 + max b.depth n.depth⟩

/-- Reads a named ASCII class such as `[:alpha:]`, after its opening bracket; none if there is none. -/
def asciiClass? (f : Flags) (cs : List Char) : Option (Except PatternError CharSet × List Char) :=
  match cs with
  | ':' :: r =>
    let negated := r.head? = some '^'
    let r := if negated then r.tail else r
    match splitAt? [':', ']'] r with
    | some (name, rest) =>
      (CharClass.ascii? (String.ofList name)).map fun k => (f.negate negated (f.fold k), rest)
    | none => none
  | _ => none

/-- Reads one character or escape of a set. -/
def setPrimitive (f : Flags) : List Char → Except PatternError (Escaped × List Char)
  | [] => .error .unclosedClass
  | c :: r =>
    if c = '\\' then
      match escape f r with
      | .ok (.look _, _) => .error .badEscape
      | other => other
    else .ok (.char c, r)

/-- A character as a class of its own. Without Unicode it has to be ASCII. -/
def singleton (f : Flags) (c : Char) : Except PatternError CharSet :=
  if !f.unicode && 0x7F < c.toNat then .error .notText else .ok (CharSet.single c)

/-- Reads one item of a set: a character, a range or an escape. -/
def setItem (f : Flags) (cs : List Char) : Except PatternError (CharSet × List Char) := do
  let (first, r) ← setPrimitive f cs
  let alone : Except PatternError (CharSet × List Char) :=
    match first with
    | .char c => (singleton f c).map fun k => (k, r)
    | .cls k => .ok (k, r)
    | .look _ => .error .badEscape
  let r' := f.skip r
  match r' with
  | [] => .error .unclosedClass
  | c :: _ =>
    if c ≠ '-' ∨ f.peek r' = some ']' ∨ f.peek r' = some '-' then alone.map fun p => (p.1, r')
    else
      let (second, r'') ← setPrimitive f (f.skip r'.tail)
      match first, second with
      | .char a, .char b =>
        if b.toNat < a.toNat then .error .badRange
        else if !f.unicode && 0x7F < b.toNat then .error .notText
        else return (CharSet.span a.toNat b.toNat, r'')
      | _, _ => .error .badRange

/-- Reads the hyphens at the start of a set, each of which is a character of it. -/
def leadingHyphens (f : Flags) : Nat → List Char → List Nested × List Char
  | 0, cs => ([], cs)
  | fuel + 1, cs =>
    match cs with
    | '-' :: r =>
      let (ns, rest) := leadingHyphens f fuel (f.skip r)
      (⟨CharSet.single '-', 0⟩ :: ns, rest)
    | _ => ([], cs)

/-- Reads the start of a set after its opening bracket: whether it is negated, and the hyphens or the
closing bracket that count as characters there. -/
def setStart (f : Flags) (cs : List Char) : Except PatternError (Bool × List Nested × List Char) :=
  let cs := f.skip cs
  let negated := cs.head? = some '^'
  let cs := if negated then f.skip cs.tail else cs
  let (hyphens, cs) := leadingHyphens f cs.length cs
  match cs with
  | [] => .error .unclosedClass
  | c :: r =>
    if hyphens.isEmpty && c = ']' then
      match f.skip r with
      | [] => .error .unclosedClass
      | r' => .ok (negated, [⟨CharSet.single ']', 0⟩], r')
    else .ok (negated, hyphens, cs)

/-- Reads a set up to its closing bracket. `before` and `items` are what has been read of it so far. -/
def setRest (f : Flags) : Nat → Bool → Before → List Nested → List Char →
    Except PatternError (Nested × List Char)
  | 0, _, _, _, _ => .error .unclosedClass
  | fuel + 1, negated, before, items, cs =>
    match f.skip cs with
    | [] => .error .unclosedClass
    | c :: r =>
      if c = ']' then do
        let n := combine f before (unionOf items)
        return (⟨← f.negate negated (f.fold n.cls), 1 + n.depth⟩, r)
      else if c = '[' then
        match asciiClass? f r with
        | some (k, rest) => do setRest f fuel negated before (⟨← k, 0⟩ :: items) rest
        | none => do
          let (inner, start, rest) ← setStart f r
          let (n, rest) ← setRest f fuel inner none start rest
          setRest f fuel negated before (n :: items) rest
      else
        match (SetOp.ofChar? c).filter fun _ => r.head? = some c with
        | some op => setRest f fuel negated (some (combine f before (unionOf items), op)) [] r.tail
        | none => do
          let (k, rest) ← setItem f (c :: r)
          setRest f fuel negated before (⟨k, 0⟩ :: items) rest

/-- Reads a bracketed class, after its opening bracket. -/
def bracket (f : Flags) (cs : List Char) : Except PatternError (Nested × List Char) := do
  let (negated, start, rest) ← setStart f cs
  setRest f (2 * rest.length + 1) negated none start rest

end DocLint.Regex
