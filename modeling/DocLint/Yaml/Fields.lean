import DocLint.Yaml.Value

/-!
# Fields of YAML mappings

What a mapping holds under a key, provided that it is of the type asked for. Any scalar is a text, but
as a rule only a plain one can be a truth value or nothing at all. Where a list or a mapping is asked for,
nothing written counts as an empty one. Aliases are followed where a value is asked for.
-/

namespace DocLint.Yaml

/-- Why a value does not have a field as it is asked for. -/
inductive FieldError where
  /-- The value is no mapping. -/
  | notMapping
  /-- A key is no scalar. -/
  | keyNotText
  /-- A key is there more than once. -/
  | repeated (key : String)
  /-- The value under a key is of another type. -/
  | wrongType (key : String)
  deriving DecidableEq, Repr

/-- Why a value does not have a field, as it is told to people. -/
def FieldError.message : FieldError → String
  | .notMapping => "invalid type, expected a mapping"
  | .keyNotText => "invalid type, expected a text as key"
  | .repeated k => "duplicate field `" ++ k ++ "`"
  | .wrongType k => k ++ ": invalid type"

/-- The values of a mapping whose keys are texts, by key. -/
abbrev Fields := List (String × Value)

/-- The value under a key that must not be there twice, if it is there. -/
def Fields.get? (fs : Fields) (key : String) : Except FieldError (Option Value) :=
  match fs.filter (·.1 = key) with
  | [] => .ok none
  | [e] => .ok (some e.2)
  | _ => .error (.repeated key)

/-- The words for nothing. -/
def nullWords : List String := ["null", "Null", "NULL", "~"]

/-- Whether a scalar says that there is nothing: a plain one that is empty or a word for nothing. With a tag it
is a text, unless the tag says that it has to be such a word; `none` if it then is not. -/
def Scalar.null? (s : Scalar) : Option Bool :=
  if s.style ≠ .plain then some false
  else
    match s.tag? with
    | none => some (s.text.isEmpty || nullWords.contains s.text)
    | some tag =>
      if tag ≠ "tag:yaml.org,2002:null".toList then some false
      else if nullWords.contains s.text then some true
      else none

/-- The truth value that a scalar spells. It has to be plain, or lines with the tag of truth values. -/
def Scalar.boolean? (s : Scalar) : Option Bool :=
  if s.style = .plain ∨ (s.style = .literal ∧ s.tag? = some "tag:yaml.org,2002:bool".toList) then
    if ["true", "True", "TRUE"].contains s.text then some true
    else if ["false", "False", "FALSE"].contains s.text then some false
    else none
  else none

namespace Document

/-- The text of a scalar. -/
def text? (d : Document) (v : Value) : Option String :=
  match d.resolve v with
  | .scalar s => some s.text
  | _ => none

/-- The truth value that a value spells. -/
def boolean? (d : Document) (v : Value) : Option Bool :=
  match d.resolve v with
  | .scalar s => s.boolean?
  | _ => none

/-- Whether a value says that there is nothing; `none` if it has to and does not. -/
def null? (d : Document) (v : Value) : Option Bool :=
  match d.resolve v with
  | .scalar s => s.null?
  | _ => some false

/-- Whether a value is a plain empty text. -/
def isEmpty (d : Document) (v : Value) : Bool :=
  match d.resolve v with
  | .scalar s => s.style = .plain && s.text.isEmpty
  | _ => false

/-- The items of a list. -/
def items? (d : Document) (v : Value) : Option (List Value) :=
  match d.resolve v with
  | .sequence items => some items
  | _ => if d.isEmpty v then some [] else none

/-- The entries of a mapping, each with its key as a text. -/
def fieldsOf (d : Document) : List (Value × Value) → Except FieldError Fields
  | [] => .ok []
  | (k, v) :: r =>
    match d.text? k with
    | some key => (d.fieldsOf r).map ((key, v) :: ·)
    | none => .error .keyNotText

/-- The fields of a mapping. -/
def fields (d : Document) (v : Value) : Except FieldError Fields :=
  match d.resolve v with
  | .mapping entries => d.fieldsOf entries
  | _ => if d.isEmpty v then .ok [] else .error .notMapping

/-- What is read of the value under a key, if the key is there and has a value. -/
def optional? {α : Type} (d : Document) (fs : Fields) (key : String) (read : Value → Option α) :
    Except FieldError (Option α) := do
  match ← fs.get? key with
  | none => return none
  | some v =>
    match d.null? v, read v with
    | some true, _ => return none
    | some false, some x => return some x
    | _, _ => throw (.wrongType key)

/-- The text under a key, if the key is there and has a value. -/
def textField? (d : Document) (fs : Fields) (key : String) : Except FieldError (Option String) :=
  d.optional? fs key d.text?

/-- The truth value under a key, if the key is there and has a value. -/
def booleanField? (d : Document) (fs : Fields) (key : String) : Except FieldError (Option Bool) :=
  d.optional? fs key d.boolean?

/-- The list of texts under a key, if the key is there. -/
def textsField? (d : Document) (fs : Fields) (key : String) :
    Except FieldError (Option (List String)) := do
  match ← fs.get? key with
  | none => return none
  | some v =>
    match (d.items? v).bind (·.mapM d.text?) with
    | some texts => return some texts
    | none => throw (.wrongType key)

end Document

end DocLint.Yaml
