import DocLint.Text.Blank

/-!
# Names of files

A file name is kept as it is written. It stands for a list of components: the root, the present directory
(only in front), the parent directory, and plain names. Empty parts and further dots are no components, so
several spellings stand for the same list, and names are ordered by their components.
-/

namespace DocLint

/-- The name of a file or a directory, as it is written. -/
structure FileName where
  /-- The written form. -/
  text : String
  deriving DecidableEq, Repr

/-- A part of a file name. -/
inductive Component where
  /-- The root of all files. -/
  | root
  /-- The present directory. -/
  | here
  /-- The parent directory. -/
  | up
  /-- An entry of a directory. -/
  | entry (name : String)
  deriving DecidableEq, Repr

/-- The place of a kind of component in the order. -/
def Component.rank : Component → Nat
  | .root => 0
  | .here => 1
  | .up => 2
  | .entry _ => 3

/-- Components are ordered by kind, entries by their names. -/
def Component.compare : Component → Component → Ordering
  | .entry a, .entry b => Ord.compare a b
  | a, b => Ord.compare a.rank b.rank

namespace FileName

/-- The parts of a written name between its slashes. -/
def parts (n : FileName) : List (List Char) :=
  n.text.toList.splitOn '/'

/-- Whether a name starts at the root. -/
def isAbsolute (n : FileName) : Bool :=
  n.text.toList.head? = some '/'

/-- The component that a part stands for. -/
def componentOf? (part : List Char) : Option Component :=
  if part.isEmpty || part = ['.'] then none
  else if part = ['.', '.'] then some .up
  else some (.entry (String.ofList part))

/-- The components of a name. -/
def components (n : FileName) : List Component :=
  let front :=
    if n.isAbsolute then [Component.root]
    else if n.parts.head? = some ['.'] then [Component.here]
    else []
  front ++ n.parts.filterMap componentOf?

/-- Names are ordered by their components. -/
def compare (a b : FileName) : Ordering :=
  List.compareLex Component.compare a.components b.components

/-- A name relative to a directory. An absolute name stays as it is. -/
def join (dir name : FileName) : FileName :=
  if name.isAbsolute then name
  else
    let d := dir.text.toList
    if d.isEmpty || d.getLast? = some '/' then ⟨dir.text ++ name.text⟩
    else ⟨dir.text ++ "/" ++ name.text⟩

/-- An entry of a directory. -/
def child (dir : FileName) (entry : String) : FileName :=
  dir.join ⟨entry⟩

/-- Drops, from a name written backwards, the parts that are no components. -/
def trimBackwards : Nat → List Char → List Char
  | 0, cs => cs
  | fuel + 1, cs =>
    let part := cs.takeWhile (· ≠ '/')
    if cs.isEmpty || (componentOf? part.reverse).isSome then cs
    else trimBackwards fuel ((cs.dropWhile (· ≠ '/')).drop 1)

/-- The name without its last component, written as before; none if there is no component to drop but
perhaps the root. -/
def parent? (n : FileName) : Option FileName :=
  let cs := n.text.toList
  let front :=
    if n.isAbsolute || n.parts.head? = some ['.'] then 1 else 0
  let trim (back : List Char) := trimBackwards back.length back
  match trim (cs.drop front).reverse with
  | [] => if n.parts.head? = some ['.'] then some ⟨""⟩ else none
  | back =>
    let rest := trim ((back.dropWhile (· ≠ '/')).drop 1)
    some ⟨String.ofList (cs.take front ++ rest.reverse)⟩

/-- The name and those of its ancestors, the name first. -/
def ancestors : Nat → FileName → List FileName
  | 0, n => [n]
  | fuel + 1, n =>
    match n.parent? with
    | some p => n :: ancestors fuel p
    | none => [n]

/-- The name and those of all its ancestors, the name first. -/
def selfAndAncestors (n : FileName) : List FileName :=
  ancestors (n.text.length + 1) n

end FileName

end DocLint
