import DocLint.Files.Glob

/-!
# Targets

The files that a run is about, as `expand_targets` finds them. A name without wildcards stands for itself,
whether or not there is such a file; a pattern stands for the files that it matches. The targets are in
order, and of several spellings of one name only the first is kept.
-/

namespace DocLint

/-- A pattern that cannot be read. -/
structure TargetError where
  /-- The pattern, as it was given. -/
  pattern : String
  /-- What is wrong with it. -/
  fault : Glob.Fault
  deriving DecidableEq, Repr

/-- Why a pattern cannot be read, as it is told to people. -/
def TargetError.message (e : TargetError) : String :=
  "bad glob pattern '" ++ e.pattern ++ "': " ++ e.fault.message

namespace Targets

/-- Puts a name into a list in order, unless an equal one is there. -/
def insert (n : FileName) : List FileName → List FileName
  | [] => [n]
  | a :: r =>
    match FileName.compare n a with
    | .lt => n :: a :: r
    | .eq => a :: r
    | .gt => a :: insert n r

/-- Names in order; of equal ones only the first. -/
def ofNames (names : List FileName) : List FileName :=
  names.foldl (fun ts n => insert n ts) []

/-- Whether a character is a wildcard or opens one. -/
def isWildcard (c : Char) : Bool := c = '*' || c = '?' || c = '['

/-- Whether a name is a pattern. -/
def isPattern (n : FileName) : Bool := n.text.toList.any isWildcard

/-- The name of an entry: relative to a directory, if there is one, and else as given. -/
def place (dir? : Option FileName) (entry : String) : FileName :=
  match dir? with
  | some dir => dir.child entry
  | none => ⟨entry⟩

section
variable {m : Type → Type} [Monad m] (fs : Files m)

/-- The files that an entry stands for. -/
def expandEntry (dir? : Option FileName) (entry : String) : m (Except TargetError (List FileName)) :=
  let name := place dir? entry
  if isPattern name then
    match Glob.readParts name.text with
    | .error e => return .error ⟨entry, e⟩
    | .ok parts => return .ok (← Glob.files fs parts)
  else return .ok [name]

/-- The files that entries stand for, one entry after the other, unless an entry cannot be read. -/
def expandEntries (dir? : Option FileName) : List String → m (Except TargetError (List FileName))
  | [] => return .ok []
  | entry :: r => do
    match ← expandEntry fs dir? entry with
    | .error e => return .error e
    | .ok here =>
      match ← expandEntries dir? r with
      | .error e => return .error e
      | .ok others => return .ok (here ++ others)

/-- The targets of entries (`expand_targets`). -/
def expand (dir? : Option FileName) (entries : List String) :
    m (Except TargetError (List FileName)) := do
  return (← expandEntries fs dir? entries).map ofNames

end

end Targets

end DocLint
