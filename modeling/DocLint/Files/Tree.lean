import DocLint.Files.Access

/-!
# File trees

A tree of directories and files, as a value. Together with a present directory it answers what the library
asks of a file system. A name is followed part by part, and every part needs a directory to stand in.
-/

namespace DocLint

/-- A file with its content, or a directory with its entries. -/
inductive FileTree where
  /-- A file. -/
  | file (content : ByteArray)
  /-- A directory. -/
  | directory (entries : List (String × FileTree))

namespace FileTree

/-- The directory without entries. -/
def empty : FileTree := directory []

/-- The entry of a directory. -/
def entry? (name : String) : FileTree → Option FileTree
  | file _ => none
  | directory entries => (entries.find? (·.1 = name)).map (·.2)

/-- The tree at the end of some names. -/
def at? : FileTree → List String → Option FileTree
  | t, [] => some t
  | t, n :: r =>
    match t.entry? n with
    | some t' => t'.at? r
    | none => none

/-- Changes the entry of a name, which is the empty directory if it was not there. -/
def modifyEntry (name : String) (change : FileTree → FileTree) : List (String × FileTree) →
    List (String × FileTree)
  | [] => [(name, change empty)]
  | (n, t) :: r => if n = name then (n, change t) :: r else (n, t) :: modifyEntry name change r

/-- Puts a tree at the end of some names, making the directories on the way. -/
def put (t : FileTree) : List String → FileTree → FileTree
  | [], _ => t
  | n :: r, .directory entries => directory (modifyEntry n (put t r) entries)
  | n :: r, .file _ => directory (modifyEntry n (put t r) [])

/-- Makes sure that there is a directory at the end of some names. -/
def makeDirectory : List String → FileTree → FileTree
  | [], .directory entries => directory entries
  | [], .file _ => empty
  | n :: r, .directory entries => directory (modifyEntry n (makeDirectory r) entries)
  | n :: r, .file _ => directory (modifyEntry n (makeDirectory r) [])

/-- A tree and the directory that relative names start from. -/
structure World where
  /-- The tree of all files. -/
  tree : FileTree
  /-- The names that lead to the present directory. -/
  present : List String

namespace World

/-- Follows the parts of a name. `place` are the names that lead to where one stands. -/
def follow (w : World) (place : List String) :
    List (List Char) → Except ReadFailure (List String)
  | [] => .ok place
  | part :: r =>
    match w.tree.at? place with
    | none => .error .notFound
    | some (.file _) => .error .notDirectory
    | some (.directory _) =>
      match FileName.componentOf? part with
      | some (.entry n) =>
        match w.tree.at? (place ++ [n]) with
        | some _ => w.follow (place ++ [n]) r
        | none => .error .notFound
      | some .up => w.follow place.dropLast r
      | _ => w.follow place r

/-- The tree that a name stands for. -/
def find (w : World) (n : FileName) : Except ReadFailure FileTree :=
  if n.text.isEmpty then .error .notFound
  else
    match w.follow (if n.isAbsolute then [] else w.present) n.parts with
    | .error e => .error e
    | .ok place =>
      match w.tree.at? place with
      | some t => .ok t
      | none => .error .notFound

/-- The answers of a tree. -/
def files (w : World) : Files Id where
  kind? n :=
    match w.find n with
    | .ok (.file _) => some .file
    | .ok (.directory _) => some .directory
    | .error _ => none
  read n :=
    match w.find n with
    | .ok (.file content) =>
      match String.fromUTF8? content with
      | some s => .ok s
      | none => .error .notText
    | .ok (.directory _) => .error .isDirectory
    | .error e => .error e
  entries n :=
    match w.find n with
    | .ok (.directory entries) => entries.map (·.1)
    | _ => []

end World

end FileTree

end DocLint
