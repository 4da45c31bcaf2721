import DocLint.Toml.Value

/-!
# Fields of TOML tables

What a table holds under a key, provided that it is of the type asked for.
-/

namespace DocLint.Toml

/-- Why a table does not have a field as it is asked for. -/
inductive FieldError where
  /-- A key that has to be there is not. -/
  | missing (key : String)
  /-- The value under a key is of another type. -/
  | wrongType (key : String)
  deriving DecidableEq, Repr

/-- Why a table does not have a field, as it is told to people. -/
def FieldError.message : FieldError → String
  | .missing k => "missing field `" ++ k ++ "`"
  | .wrongType k => "invalid type for field `" ++ k ++ "`"

namespace Table

/-- The text under a key, if the key is there. -/
def text? (t : Table) (key : String) : Except FieldError (Option String) :=
  match t.get? key with
  | none => .ok none
  | some (.string s) => .ok (some s)
  | some _ => .error (.wrongType key)

/-- The text under a key that has to be there. -/
def text (t : Table) (key : String) : Except FieldError String :=
  match t.get? key with
  | none => .error (.missing key)
  | some (.string s) => .ok s
  | some _ => .error (.wrongType key)

/-- The word under a key, if the key is there: a text, or the only key of a table that holds an empty
table. -/
def word? (t : Table) (key : String) : Except FieldError (Option String) :=
  match t.get? key with
  | none => .ok none
  | some (.string s) => .ok (some s)
  | some (.table [(s, .table [])]) => .ok (some s)
  | some _ => .error (.wrongType key)

/-- The truth value under a key, if the key is there. -/
def boolean? (t : Table) (key : String) : Except FieldError (Option Bool) :=
  match t.get? key with
  | none => .ok none
  | some (.boolean b) => .ok (some b)
  | some _ => .error (.wrongType key)

/-- The texts of a list. -/
def textsOf (key : String) : List Value → Except FieldError (List String)
  | [] => .ok []
  | .string s :: r => (textsOf key r).map (s :: ·)
  | _ :: _ => .error (.wrongType key)

/-- The list of texts under a key, if the key is there. -/
def texts? (t : Table) (key : String) : Except FieldError (Option (List String)) :=
  match t.get? key with
  | none => .ok none
  | some (.array items) => (textsOf key items).map some
  | some _ => .error (.wrongType key)

/-- The list of texts under a key that has to be there. -/
def texts (t : Table) (key : String) : Except FieldError (List String) :=
  match t.get? key with
  | none => .error (.missing key)
  | some (.array items) => textsOf key items
  | some _ => .error (.wrongType key)

/-- The table under a key, if the key is there. A moment passes for a table with its text as the only
entry. -/
def table? (t : Table) (key : String) : Except FieldError (Option Table) :=
  match t.get? key with
  | none => .ok none
  | some (.table entries) => .ok (some entries)
  | some (.moment m) => .ok (some [("moment", .string m.text)])
  | some _ => .error (.wrongType key)

end Table

end DocLint.Toml
