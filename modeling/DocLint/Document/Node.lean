import DocLint.Document.Path
import DocLint.Document.Span
import DocLint.Json.Number

/-!
# Documents

A document is a tree of scalars, sequences and mappings (`DocumentNode`). A mapping keeps its entries in
source order and may repeat a key. Every node knows its path from the root and its span in the source text: a
tree is built with empty paths, and `Document.ofTree` gives each node the path that leads to it
(`assign_paths`).

`Node.get?` steps into one child and `Node.resolve` follows a path. Where a mapping repeats a key, both
take its first entry.
-/

namespace DocLint

open DocLint.Text

/-- A value without parts. -/
inductive Scalar where
  /-- The absent value. -/
  | null
  /-- A truth value. -/
  | boolean (value : Bool)
  /-- A number. -/
  | number (value : Json.Number)
  /-- A text. -/
  | string (value : String)
  deriving DecidableEq, Repr

/-- The name of a scalar's type (`Scalar::type_name`). Numbers that are integers have a type of their own. -/
def Scalar.typeName : Scalar → String
  | .null => "null"
  | .boolean _ => "boolean"
  | .number (.integer _) => "integer"
  | .number (.double _) => "number"
  | .string _ => "string"

/-- The text of a scalar; a string is its own text. -/
def Scalar.text : Scalar → String
  | .null => "null"
  | .boolean true => "true"
  | .boolean false => "false"
  | .number n => n.text
  | .string s => s

/-- A node of a document (`DocumentNode`). -/
inductive Node where
  /-- A value without parts. -/
  | scalar (path : Path) (span : Span) (value : Scalar)
  /-- A list of nodes. -/
  | sequence (path : Path) (span : Span) (items : List Node)
  /-- Nodes under keys, in source order. -/
  | mapping (path : Path) (span : Span) (entries : List (String × Node))
  deriving Repr

/-- The three kinds of nodes (`NodeKind`). -/
inductive Kind where
  /-- A value without parts. -/
  | scalar
  /-- A list of nodes. -/
  | sequence
  /-- Nodes under keys. -/
  | mapping
  deriving DecidableEq, Repr

/-- The name of a kind. -/
def Kind.text : Kind → String
  | .scalar => "scalar"
  | .sequence => "sequence"
  | .mapping => "mapping"

/-- Why a node has no child under a segment. -/
inductive Absence where
  /-- The mapping has no such key. -/
  | noKey (key : String)
  /-- The sequence is too short. -/
  | outOfBounds (place length : Nat)
  /-- A mapping has no indices. -/
  | indexOfMapping (place : Nat)
  /-- A sequence has no keys. -/
  | keyOfSequence (key : String)
  /-- A scalar has no children. -/
  | childOfScalar
  deriving DecidableEq, Repr

/-- The wording of an absence. -/
def Absence.text : Absence → String
  | .noKey k => "no key '" ++ k ++ "' in mapping"
  | .outOfBounds i n =>
    "index " ++ ofNat i ++ " out of bounds for sequence of length " ++ ofNat n
  | .indexOfMapping i => "cannot index mapping with " ++ ofNat i
  | .keyOfSequence k => "cannot look up key '" ++ k ++ "' in sequence"
  | .childOfScalar => "scalar has no children"

/-- A path that leads nowhere, up to the first segment that fails (`PathNotFound`). -/
structure NotFound where
  /-- The path of the deepest node reached and the segment that fails there. -/
  path : Path
  /-- Why it fails. -/
  reason : Absence
  deriving DecidableEq, Repr

/-- A path that leads nowhere, as it is told to people. -/
def NotFound.message (e : NotFound) : String :=
  "path " ++ e.path.render ++ " not found: " ++ e.reason.text

namespace Node

/-- The path of a node. -/
def path : Node → Path
  | scalar p _ _ => p
  | sequence p _ _ => p
  | mapping p _ _ => p

/-- The span of a node. -/
def span : Node → Span
  | scalar _ s _ => s
  | sequence _ s _ => s
  | mapping _ s _ => s

/-- The node with another span (`DocumentNode::with_position`); its children keep theirs. -/
def withSpan (s : Span) : Node → Node
  | scalar p _ v => scalar p s v
  | sequence p _ items => sequence p s items
  | mapping p _ entries => mapping p s entries

/-- The kind of a node. -/
def kind : Node → Kind
  | scalar .. => .scalar
  | sequence .. => .sequence
  | mapping .. => .mapping

/-- The value of a scalar. -/
def value? : Node → Option Scalar
  | scalar _ _ v => some v
  | _ => none

/-- The children of a node, in source order (`DocumentNode::children`). -/
def children : Node → List Node
  | scalar .. => []
  | sequence _ _ items => items
  | mapping _ _ entries => entries.map (·.2)

/-- The first node under a key. -/
def find? (key : String) (entries : List (String × Node)) : Option Node :=
  (entries.find? (·.1 = key)).map (·.2)

/-- The child of a node under a segment, or why there is none. -/
def child? (n : Node) (s : Segment) : Except Absence Node :=
  match n, s with
  | mapping _ _ entries, .key k =>
    match find? k entries with
    | some c => .ok c
    | none => .error (.noKey k)
  | sequence _ _ items, .index i =>
    match items[i]? with
    | some c => .ok c
    | none => .error (.outOfBounds i items.length)
  | mapping .., .index i => .error (.indexOfMapping i)
  | sequence .., .key k => .error (.keyOfSequence k)
  | scalar .., _ => .error .childOfScalar

/-- Steps into one child (`DocumentNode::get`). A failure names the node's path and the segment. -/
def get? (n : Node) (s : Segment) : Except NotFound Node :=
  (n.child? s).mapError fun reason => ⟨n.path.child s, reason⟩

/-- Follows a path from a node on (`DocumentNode::resolve`). -/
def resolve : Node → Path → Except NotFound Node
  | n, [] => .ok n
  | n, s :: p =>
    match n.get? s with
    | .ok c => c.resolve p
    | .error e => .error e

mutual

/-- Gives a node and everything below it the paths that start with `p`. -/
def place (p : Path) : Node → Node
  | scalar _ s v => scalar p s v
  | sequence _ s items => sequence p s (placeItems p 0 items)
  | mapping _ s entries => mapping p s (placeEntries p entries)

/-- Places the items of a sequence, the first of which has index `i`. -/
def placeItems (p : Path) (i : Nat) : List Node → List Node
  | [] => []
  | n :: r => place (p.child (.index i)) n :: placeItems p (i + 1) r

/-- Places the entries of a mapping. -/
def placeEntries (p : Path) : List (String × Node) → List (String × Node)
  | [] => []
  | (k, n) :: r => (k, place (p.child (.key k)) n) :: placeEntries p r

end

mutual

/-- A node and everything below it, parents before children, children in source order. -/
def preorder : Node → List Node
  | scalar p s v => [scalar p s v]
  | sequence p s items => sequence p s items :: preorderItems items
  | mapping p s entries => mapping p s entries :: preorderEntries entries

/-- The nodes of a list and everything below them. -/
def preorderItems : List Node → List Node
  | [] => []
  | n :: r => preorder n ++ preorderItems r

/-- The nodes of some entries and everything below them. -/
def preorderEntries : List (String × Node) → List Node
  | [] => []
  | (_, n) :: r => preorder n ++ preorderEntries r

end

end Node

/-- A document: a tree whose nodes carry the paths that lead to them. -/
structure Document where
  /-- The root of the tree. -/
  root : Node
  deriving Repr

namespace Document

/-- Makes a tree a document, giving every node its path. -/
def ofTree (n : Node) : Document := ⟨n.place Path.root⟩

/-- Follows a path from the root. -/
def resolve (d : Document) (p : Path) : Except NotFound Node := d.root.resolve p

/-- All nodes of a document, parents before children. -/
def nodes (d : Document) : List Node := d.root.preorder

end Document

end DocLint
