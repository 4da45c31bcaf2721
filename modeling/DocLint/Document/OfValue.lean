import DocLint.Document.Node
import DocLint.Json.Value

/-!
# Documents from values

A JSON value has no places, so the document that `Document::from_value` makes of it lies at the start
everywhere.
-/

namespace DocLint

mutual

/-- The tree of a value (`DocumentNode::from_json`). -/
def Node.ofValue : Json.Value → Node
  | .null => .scalar Path.root Span.start .null
  | .boolean b => .scalar Path.root Span.start (.boolean b)
  | .number n => .scalar Path.root Span.start (.number n)
  | .string s => .scalar Path.root Span.start (.string s)
  | .array items => .sequence Path.root Span.start (itemsOfValues items)
  | .object entries => .mapping Path.root Span.start (entriesOfValues entries)

/-- The trees of some values. -/
def itemsOfValues : List Json.Value → List Node
  | [] => []
  | v :: r => Node.ofValue v :: itemsOfValues r

/-- The trees of the values under some keys. -/
def entriesOfValues : List (String × Json.Value) → List (String × Node)
  | [] => []
  | (k, v) :: r => (k, Node.ofValue v) :: entriesOfValues r

end

/-- The document of a value (`Document::from_value`). -/
def Document.ofValue (v : Json.Value) : Document :=
  Document.ofTree (Node.ofValue v)

end DocLint
