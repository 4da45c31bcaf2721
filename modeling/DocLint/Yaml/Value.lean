import DocLint.Yaml.Scalar

/-!
# YAML values

What a YAML document holds. A scalar is kept as its text together with how it was written, since what it
means depends on what is expected at its place. An alias is kept as the number of its anchor: a value may
hold an alias for itself.
-/

namespace DocLint.Yaml

/-- A scalar. -/
structure Scalar where
  /-- The text. -/
  text : String
  /-- How it is written. -/
  style : Style
  /-- The tag in full, if it has one. -/
  tag? : Option (List Char)
  deriving DecidableEq, Repr

/-- A YAML value. -/
inductive Value where
  /-- A text. -/
  | scalar (s : Scalar)
  /-- A list of values. -/
  | sequence (items : List Value)
  /-- Values under values. -/
  | mapping (entries : List (Value × Value))
  /-- The value of the anchor with a number. -/
  | alias (number : Nat)
  deriving Repr

/-- What stands where nothing is written. -/
def Value.absent : Value := .scalar ⟨"", .plain, none⟩

/-- A YAML document. -/
structure Document where
  /-- The value of the document. -/
  root : Value
  /-- The values with anchors, each with its number, in the order in which they start. -/
  anchored : List (Nat × Value)
  deriving Repr

/-- The value that an alias stands for; any other value stands for itself. Of the values with one number, the
last one counts. -/
def Document.resolve (d : Document) (v : Value) : Value :=
  match v with
  | .alias number => ((d.anchored.reverse.find? (·.1 = number)).map (·.2)).getD .absent
  | v => v

end DocLint.Yaml
