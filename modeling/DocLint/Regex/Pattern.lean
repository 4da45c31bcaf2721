import DocLint.Regex.Bracket
import DocLint.Regex.Search
import DocLint.Regex.Size

/-!
# Patterns

A pattern is a text that is read as a regular expression, together with the set of texts it accepts: those
with a stretch that matches. Reading refuses a pattern that is malformed, nested too deeply or too large.
-/

namespace DocLint.Regex

open DocLint.Text

/-- A part of a pattern: its expression, how deep it is nested, and whether it can be repeated. -/
structure Piece where
  /-- The expression. -/
  expr : Expr
  /-- The depth. -/
  depth : Nat
  /-- Whether a repetition may follow. -/
  repeatable : Bool

/-- One part after the other; the parts come last one first. -/
def Piece.concat : List Piece → Piece
  | [] => ⟨.empty, 0, false⟩
  | [p] => p
  | ps => ⟨.inRow (ps.reverse.map (·.expr)), 1 + (ps.map (·.depth)).foldl max 0, true⟩

/-- One of some branches; the branches come last one first. -/
def Piece.choice : List Piece → Piece
  | [] => ⟨.empty, 0, false⟩
  | [p] => p
  | ps => ⟨.oneOfFactored (ps.reverse.map (·.expr)), 1 + (ps.map (·.depth)).foldl max 0, true⟩

/-- The branches of a group as one part. `done` are the parts of the present branch, `branches` the branches
before it, both the last one first. -/
def Piece.finish (branches done : List Piece) : Piece := choice (concat done :: branches)

/-- A part repeated. -/
def Piece.times (p : Piece) (greedy : Bool) (least : Nat) (most : Option Nat) :
    Except PatternError Piece :=
  if p.repeatable then .ok ⟨p.expr.repeated greedy least most, 1 + p.depth, true⟩
  else .error .nothingToRepeat

/-- A part that nothing contains. -/
def Piece.leaf (e : Expr) : Piece := ⟨e, 0, true⟩

/-- A character as the flags read it. -/
def charExpr (f : Flags) (c : Char) : Expr :=
  if f.ignoreCase then .ofSet (f.fold (CharSet.single c)) else .literal [c]

/-- The dot as the flags read it. -/
def dotExpr (f : Flags) : Except PatternError Expr :=
  if !f.unicode then .error .notText
  else if f.dotAll then .ok (.one CharSet.all)
  else if f.anyBreak then .ok (.one (CharClass.ofPairs [(0x0A, 0x0A), (0x0D, 0x0D)]).compl)
  else .ok (.one (CharSet.single '\n').compl)

/-- The circumflex as the flags read it. -/
def startExpr (f : Flags) : Expr :=
  if !f.multiLine then .look .textStart
  else if f.anyBreak then .look .anyLineStart
  else .look .lineStart

/-- The dollar sign as the flags read it. -/
def endExpr (f : Flags) : Expr :=
  if !f.multiLine then .look .textEnd
  else if f.anyBreak then .look .anyLineEnd
  else .look .lineEnd

/-- An escape as an expression. -/
def escapedExpr (f : Flags) : Escaped → Expr
  | .char c => charExpr f c
  | .cls k => .ofSet k
  | .look l => .look l

/-- Reads a number of a counted repetition, with white space around it. -/
def count? (f : Flags) (cs : List Char) : Option Nat × List Char :=
  let cs := cs.dropWhile isBlank
  let rec digits : Nat → List Char → List Char × List Char
    | 0, cs => ([], cs)
    | fuel + 1, cs =>
      match cs with
      | [] => ([], [])
      | c :: r =>
        if isDigit c then
          let (ds, rest) := digits fuel (f.skip r)
          (c :: ds, rest)
        else ([], c :: r)
  let (ds, rest) := digits cs.length cs
  let n := digitsValue ds
  (if ds.isEmpty || 4294967296 ≤ n then none else some n, f.skip (rest.dropWhile isBlank))

/-- Reads the question mark that makes a repetition lazy: whether the repetition is greedy, and what
follows. -/
def greed (f : Flags) (cs : List Char) : Bool × List Char :=
  if cs.head? = some '?' then (f.swapGreed, cs.tail) else (!f.swapGreed, cs)

/-- Reads a counted repetition after its opening brace: the bounds and what follows. -/
def counts (f : Flags) (cs : List Char) :
    Except PatternError (Nat × Option Nat × List Char) := do
  let close (least : Nat) (most : Option Nat) :
      List Char → Except PatternError (Nat × Option Nat × List Char)
    | '}' :: r =>
      if most.any (· < least) then .error .badCount else .ok (least, most, f.skip r)
    | _ => .error .badCount
  match count? f (f.skip cs) with
  | (some least, ',' :: r) =>
    let r := f.skip r
    if r.head? = some '}' then close least none r
    else
      match count? f r with
      | (some most, r) => close least (some most) r
      | (none, _) => .error .badCount
  | (some n, r) => close n (some n) r
  | (none, _) => .error .badCount

/-- The groups of a pattern so far. -/
structure Groups where
  /-- The number of groups. -/
  count : Nat
  /-- The names of those that have one. -/
  names : List (List Char)

/-- Whether a character can stand in the name of a group. -/
def isNameChar (isFirst : Bool) (c : Char) : Bool :=
  let isBeyond (k : Thunk CharSet) := 0x7F < c.toNat && k.get.holds c.toNat
  c = '_' || c.isAlpha || isBeyond CharClass.nameLetter ||
    (!isFirst && (c = '.' || c = '[' || c = ']' || c.isDigit || isBeyond CharClass.nameNumber))

/-- Reads the name of a group, after the opening angle bracket. -/
def groupName (names : List (List Char)) (cs : List Char) :
    Except PatternError (List Char × List Char) :=
  let name := cs.takeWhile (· ≠ '>')
  match name, cs.drop name.length with
  | c :: r, _ :: rest =>
    if isNameChar true c && r.all (isNameChar false) && !names.contains (c :: r) then
      .ok (c :: r, rest)
    else .error .badGroupName
  | _, _ => .error .badGroupName

/-- What an opening parenthesis introduces. -/
inductive Opening where
  /-- A numbered group. -/
  | group (number : Nat)
  /-- Parentheses that are no group, and the flags inside of them. -/
  | plain (flags : Flags)
  /-- Flags for the rest of the enclosing parentheses. -/
  | set (flags : Flags)

/-- Reads what follows an opening parenthesis, up to the content of the group. -/
def opening (f : Flags) (g : Groups) (cs : List Char) :
    Except PatternError (Opening × Groups × List Char) :=
  let number := g.count + 1
  let named (cs : List Char) :=
    (groupName g.names cs).map fun p => (Opening.group number, ⟨number, p.1 :: g.names⟩, p.2)
  match f.skip cs with
  | '?' :: '=' :: _ => .error .lookAround
  | '?' :: '!' :: _ => .error .lookAround
  | '?' :: '<' :: '=' :: _ => .error .lookAround
  | '?' :: '<' :: '!' :: _ => .error .lookAround
  | '?' :: 'P' :: '<' :: r => named r
  | '?' :: '<' :: r => named r
  | '?' :: r =>
    match f.read [] r with
    | .error e => .error e
    | .ok (f', ':' :: r') => .ok (.plain f', g, r')
    | .ok (f', _ :: r') =>
      if r.head? = some ')' then .error .nothingToRepeat else .ok (.set f', g, r')
    | .ok (_, []) => .error .unclosedGroup
  | r => .ok (.group number, ⟨number, g.names⟩, r)

/-- The flags inside of the parentheses. -/
def Opening.flags (o : Opening) (f : Flags) : Flags :=
  match o with
  | group _ => f
  | plain f' => f'
  | set f' => f'

/-- The content of parentheses as a part. -/
def Opening.piece (o : Opening) (p : Piece) : Piece :=
  match o with
  | group number => ⟨.group number p.expr, 1 + p.depth, true⟩
  | _ => ⟨p.expr, 1 + p.depth, true⟩

/-- Reads a pattern up to the end of the enclosing group or of the text. `branches` are the finished
branches and `done` the parts of the present one, the last one first. -/
def parts : Nat → Flags → Groups → List Piece → List Piece → List Char →
    Except PatternError (Piece × Groups × List Char)
  | 0, _, _, _, _, _ => .error .tooLarge
  | fuel + 1, f, g, branches, done, cs =>
    let repeated (least : Nat) (most : Option Nat) (r : List Char) :=
      match done with
      | [] => .error .nothingToRepeat
      | p :: ps => do
        let (greedy, r) := greed f r
        parts fuel f g branches ((← p.times greedy least most) :: ps) r
    let leaf (e : Expr) (r : List Char) := parts fuel f g branches (.leaf e :: done) r
    match f.skip cs with
    | [] => .ok (.finish branches done, g, [])
    | c :: r =>
      if c = ')' then .ok (.finish branches done, g, c :: r)
      else if c = '|' then parts fuel f g (Piece.concat done :: branches) [] r
      else if c = '(' then do
        let (o, g, r) ← opening f g r
        match o with
        | .set f' => parts fuel f' g branches (⟨.empty, 0, false⟩ :: done) r
        | _ =>
          let (p, g, r) ← parts fuel (o.flags f) g [] [] r
          match r with
          | [] => .error .unclosedGroup
          | _ :: r => parts fuel f g branches (o.piece p :: done) r
      else if c = '[' then do
        let (n, r) ← bracket f r
        parts fuel f g branches (⟨.ofSet n.cls, n.depth, true⟩ :: done) r
      else if c = '?' then repeated 0 (some 1) r
      else if c = '*' then repeated 0 none r
      else if c = '+' then repeated 1 none r
      else if c = '{' then do
        let (least, most, r) ← counts f r
        repeated least most r
      else if c = '\\' then do
        let (e, r) ← escape f r
        leaf (escapedExpr f e) r
      else if c = '.' then do leaf (← dotExpr f) r
      else if c = '^' then leaf (startExpr f) r
      else if c = '$' then leaf (endExpr f) r
      else leaf (charExpr f c) r

/-- How deep a pattern may be nested. -/
def depthLimit : Nat := 250

/-- Reads the expression of a pattern. -/
def readExpr (cs : List Char) : Except PatternError Expr := do
  let (p, _, rest) ← parts (2 * cs.length + 2) Flags.initial ⟨0, []⟩ [] [] cs
  if !rest.isEmpty then .error .unopenedGroup
  else if depthLimit < p.depth then .error .tooDeep
  else if !p.expr.fits then .error .tooLarge
  else return p.expr

end DocLint.Regex

namespace DocLint

/-- A set of texts, and how it is written. -/
structure Pattern where
  /-- The written form. -/
  source : String
  /-- Whether a text belongs to the set. -/
  accepts : String → Bool

/-- Reads a pattern: it accepts the texts with a stretch that its regular expression matches. -/
def Pattern.read (source : String) : Except Regex.PatternError Pattern :=
  (Regex.readExpr source.toList).map fun e => ⟨source, (Regex.Machine.ofExpr e).accepts⟩

end DocLint
