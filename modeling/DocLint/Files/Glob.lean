import DocLint.Files.Access
import DocLint.Text.Natural

/-!
# File names with wildcards

A pattern of file names is followed part by part. A part without wildcards names one entry. `?`, `*` and
sets in brackets match within an entry's name, a leading dot included, and `**` alone stands for any number
of directories. What a pattern matches is found by asking for the entries of directories only where a part
has wildcards.
-/

namespace DocLint.Glob

open DocLint.Text

/-- What a set in brackets holds. -/
inductive SetItem where
  /-- One character. -/
  | char (c : Char)
  /-- The characters from one to another. -/
  | range (low high : Char)
  deriving DecidableEq, Repr

/-- Whether a character is one of an item. -/
def SetItem.holds : SetItem → Char → Bool
  | char a, c => a = c
  | range a b, c => a ≤ c && c ≤ b

/-- A piece of a pattern. -/
inductive Token where
  /-- One character. -/
  | char (c : Char)
  /-- Any character. -/
  | any
  /-- Any characters. -/
  | many
  /-- Any directories. -/
  | deep
  /-- A character of a set. -/
  | within (items : List SetItem)
  /-- A character outside of a set. -/
  | except (items : List SetItem)
  deriving DecidableEq, Repr

/-- What is wrong with a pattern. -/
inductive Cause where
  /-- More than two stars. -/
  | stars
  /-- Two stars that are not alone. -/
  | deepNotAlone
  /-- A bracket that opens no set. -/
  | set
  deriving DecidableEq, Repr

/-- The wording of a cause. -/
def Cause.text : Cause → String
  | .stars => "wildcards are either regular `*` or recursive `**`"
  | .deepNotAlone => "recursive wildcards must form a single path component"
  | .set => "invalid range pattern"

/-- What is wrong with a pattern, and at which character. -/
structure Fault where
  /-- What is wrong. -/
  cause : Cause
  /-- The number of characters before the place. -/
  place : Nat
  deriving DecidableEq, Repr

/-- A fault as it is told to people. -/
def Fault.message (f : Fault) : String :=
  "Pattern syntax error near position " ++ ofNat f.place ++ ": " ++ f.cause.text

/-- Reads the inside of a set. -/
def setItems : List Char → List SetItem
  | a :: '-' :: b :: r => .range a b :: setItems r
  | a :: r => .char a :: setItems r
  | [] => []

/-- Splits after the first closing bracket that is not the first character. -/
def closeSet? (cs : List Char) : Option (List Char × List Char) :=
  match cs with
  | [] => none
  | c :: r =>
    let inside := r.takeWhile (· ≠ ']')
    match r.drop inside.length with
    | [] => none
    | _ :: rest => some (c :: inside, rest)

/-- Reads a pattern. `before` is the character in front, and `place` how many there are. -/
def tokens : Nat → Option Char → Nat → List Char → Except Fault (List Token)
  | _, _, _, [] => .ok []
  | 0, _, place, _ :: _ => .error ⟨.set, place⟩
  | fuel + 1, before, place, c :: r =>
    if c = '?' then (tokens fuel (some c) (place + 1) r).map (.any :: ·)
    else if c = '*' then
      let more := (r.takeWhile (· = '*')).length
      let rest := r.drop more
      if more = 0 then (tokens fuel (some c) (place + 1) r).map (.many :: ·)
      else if 1 < more then .error ⟨.stars, place + 2⟩
      else if before.isSome && before ≠ some '/' then .error ⟨.deepNotAlone, place - 1⟩
      else
        match rest with
        | [] => .ok [.deep]
        | d :: r' =>
          if d = '/' then (tokens fuel (some d) (place + 3) r').map (.deep :: ·)
          else .error ⟨.deepNotAlone, place + 2⟩
    else if c = '[' then
      if r.head? = some '!' then
        match closeSet? r.tail with
        | some (inside, rest) =>
          (tokens fuel (some ']') (place + 3 + inside.length) rest).map (.except (setItems inside) :: ·)
        | none => .error ⟨.set, place⟩
      else
        match closeSet? r with
        | some (inside, rest) =>
          (tokens fuel (some ']') (place + 2 + inside.length) rest).map (.within (setItems inside) :: ·)
        | none => .error ⟨.set, place⟩
    else (tokens fuel (some c) (place + 1) r).map (.char c :: ·)

/-- Reads a pattern. -/
def read (cs : List Char) : Except Fault (List Token) :=
  tokens cs.length none 0 cs

/-- Whether tokens match a name. -/
def matchName : List Token → List Char → Bool
  | [], cs => cs.isEmpty
  | .many :: ts, cs => manyThen ts cs
  | .deep :: ts, cs => manyThen ts cs
  | .char a :: ts, c :: r => a = c && matchName ts r
  | .any :: ts, _ :: r => matchName ts r
  | .within items :: ts, c :: r => items.any (·.holds c) && matchName ts r
  | .except items :: ts, c :: r => !items.any (·.holds c) && matchName ts r
  | _ :: _, [] => false
where
  /-- Whether tokens match some end of a name. -/
  manyThen (ts : List Token) : List Char → Bool
    | [] => matchName ts []
    | c :: r => matchName ts (c :: r) || manyThen ts r

/-- The name that tokens without wildcards spell. -/
def literal? : List Token → Option (List Char)
  | [] => some []
  | .char c :: ts => (literal? ts).map (c :: ·)
  | _ :: _ => none

/-- A pattern of file names, in parts. -/
structure Parts where
  /-- Where to start. -/
  start : FileName
  /-- The parts. -/
  parts : List (List Token)
  /-- Whether only directories are meant, since the pattern ends with a slash. -/
  directoryOnly : Bool

/-- Splits a text at its slashes; a slash at the end has nothing after it. -/
def splitParts (cs : List Char) : List (List Char) :=
  let ps := cs.splitOn '/'
  if ps.getLast? = some [] then ps.dropLast else ps

/-- Reads a pattern of file names. -/
def readParts (pattern : String) : Except Fault Parts := do
  let cs := pattern.toList
  let _ ← read cs
  let isAbsolute := cs.head? = some '/'
  let body := if isAbsolute then cs.tail else cs
  let parts ← (splitParts body).mapM read
  return {
    start := if isAbsolute then ⟨"/"⟩ else ⟨"."⟩
    parts := if isAbsolute && body.isEmpty then [[]] else parts
    directoryOnly := cs.getLast? = some '/' }

/-- Whether a name stands for the present directory. -/
def isPresent (n : FileName) : Bool := n.components = [Component.here]

/-- The name of an entry. Entries of the present directory need no directory in front. -/
def entryName (dir : FileName) (entry : String) : FileName :=
  if isPresent dir then ⟨entry⟩ else dir.child entry

/-- The names of special entries that a part with wildcards matches: only one that starts with a dot. -/
def specialNames (part : List Token) : List String :=
  if part.head? = some (.char '.') then
    [".", ".."].filter fun s => matchName part s.toList
  else []

section
variable {m : Type → Type} [Monad m] (fs : Files m)

/-- Whether a name is a directory. -/
def isDirectory (n : FileName) : m Bool := do
  return (← fs.kind? n) = some .directory

/-- The entries of a directory in order, none for anything else. -/
def entriesOf (n : FileName) : m (List String) := do
  if ← isDirectory fs n then
    return (← fs.entries n).mergeSort fun a b => (compare a b).isLE
  else return []

/-- The names that match from a directory on. `walk` does the same for the parts after the first one; the
fuel bounds the depth of directories that `**` goes through. -/
def expandDeep (walk : FileName → m (List FileName)) (next : Option (List Token)) :
    Nat → FileName → m (List FileName)
  | 0, _ => return []
  | fuel + 1, dir => do
    let found ← (← entriesOf fs dir).mapM fun e => do
      let n := entryName dir e
      let isDir ← isDirectory fs n
      let below ← if isDir then expandDeep walk next fuel n else pure []
      match next with
      | none => return (if isDir then [n] else []) ++ below
      | some part =>
        let here ← if matchName part e.toList then walk n else pure []
        return here ++ below
    return found.flatten

/-- How deep directories can be nested, since names are at most this long. -/
def depthLimit : Nat := 4096

/-- The names that some parts match from a name on. -/
def expand (directoryOnly : Bool) : List (List Token) → FileName → m (List FileName)
  | [], n => do
    if directoryOnly then return if ← isDirectory fs n then [n] else []
    else return [n]
  | part :: parts, dir => do
    match literal? part with
    | some cs =>
      let n := entryName dir (String.ofList cs)
      let isSpecial := cs = ['.'] || cs = ['.', '.']
      let goesOn ← if isSpecial then isDirectory fs dir else fs.has n
      if goesOn then expand directoryOnly parts n else return []
    | none =>
      if part = [.deep] then
        match parts with
        | [] => expandDeep fs (fun n => pure [n]) none depthLimit dir
        | next :: after => expandDeep fs (expand directoryOnly after) (some next) depthLimit dir
      else
        let found ← (← entriesOf fs dir).mapM fun e => do
          if matchName part e.toList then expand directoryOnly parts (entryName dir e) else return []
        let special ← (specialNames part).mapM fun s => do
          if ← isDirectory fs dir then expand directoryOnly parts (dir.child s) else return []
        return found.flatten ++ special.flatten

end

/-- Leaves one of several parts `**` in a row. -/
def collapse : List (List Token) → List (List Token)
  | [.deep] :: [.deep] :: r => collapse ([.deep] :: r)
  | p :: r => p :: collapse r
  | [] => []

/-- The files that a pattern matches. -/
def files {m : Type → Type} [Monad m] (fs : Files m) (p : Parts) : m (List FileName) :=
  expand fs p.directoryOnly (collapse p.parts) p.start

end DocLint.Glob
