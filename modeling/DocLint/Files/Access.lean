import DocLint.Files.Name

/-!
# Access to files

What the library asks of a file system, as three questions in any monad: what a name stands for, what a
file holds, and which entries a directory has.
-/

namespace DocLint

/-- Why a file cannot be read. -/
inductive ReadFailure where
  /-- There is no such file. -/
  | notFound
  /-- A part of the name is no directory. -/
  | notDirectory
  /-- It is a directory. -/
  | isDirectory
  /-- Its content is no text. -/
  | notText
  /-- Anything else, in the words of the system. -/
  | other (message : String)
  deriving DecidableEq, Repr

/-- Why a file cannot be read, as it is told to people. -/
def ReadFailure.message : ReadFailure → String
  | .notFound => "No such file or directory (os error 2)"
  | .notDirectory => "Not a directory (os error 20)"
  | .isDirectory => "Is a directory (os error 21)"
  | .notText => "stream did not contain valid UTF-8"
  | .other m => m

/-- What a name stands for. -/
inductive EntryKind where
  /-- A file. -/
  | file
  /-- A directory. -/
  | directory
  deriving DecidableEq, Repr

/-- What the library asks of a file system. -/
structure Files (m : Type → Type) where
  /-- What a name stands for, if for anything. -/
  kind? : FileName → m (Option EntryKind)
  /-- The text of a file. -/
  read : FileName → m (Except ReadFailure String)
  /-- The names of the entries of a directory, in any order. -/
  entries : FileName → m (List String)

/-- Whether a name stands for anything. -/
def Files.has {m : Type → Type} [Monad m] (fs : Files m) (n : FileName) : m Bool := do
  return (← fs.kind? n).isSome

end DocLint
