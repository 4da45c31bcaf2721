import DocLint.Arguments

/-!
# The program

`main` runs the command line on the files of the system. Colours are left out if the environment has
`NO_COLOR`.
-/

namespace DocLint

/-- Why the system does not read a file. -/
def ReadFailure.ofError : IO.Error → ReadFailure
  | .noFileOrDirectory .. => .notFound
  | .inappropriateType .. => .notDirectory
  | .permissionDenied _ code details => .other (details ++ " (os error " ++ toString code ++ ")")
  | e => .other (toString e)

/-- What a name stands for in the system. -/
def systemKind? (n : FileName) : IO (Option EntryKind) := do
  try
    let place ← IO.FS.realPath n.text
    return some (if ← place.isDir then .directory else .file)
  catch _ => return none

/-- The text of a file of the system. -/
def systemRead (n : FileName) : IO (Except ReadFailure String) := do
  if (← systemKind? n) = some .directory then return .error .isDirectory
  try
    match String.fromUTF8? (← IO.FS.readBinFile n.text) with
    | some s => return .ok s
    | none => return .error .notText
  catch e => return .error (.ofError e)

/-- The entries of a directory of the system. -/
def systemEntries (n : FileName) : IO (List String) := do
  try
    let place ← IO.FS.realPath n.text
    return (← place.readDir).toList.map (·.fileName)
  catch _ => return []

/-- The files of the system. -/
def systemFiles : Files IO where
  kind? := systemKind?
  read := systemRead
  entries := systemEntries

end DocLint

/-- Runs a command line, writes what it has to say, and ends with its status. -/
def main (words : List String) : IO UInt32 := do
  let colours := (← IO.getEnv "NO_COLOR").isNone
  let t ← DocLint.Command.runLine DocLint.systemFiles colours words
  IO.print t.output
  IO.eprint t.remarks
  return t.status.code.toUInt32
