import DocLint.Json.Quoted

/-!
# Paths

A node of a document is named by the keys and indices that lead to it from the root (`NodePath`). A path is
written `$` for the root, then `.key` for a simple key, `["key"]` for any other key and `[n]` for an index,
so the written form shows which segments are keys and which are indices.
-/

namespace DocLint

open DocLint.Text

/-- One step of a path (`PathSegment`): a key of a mapping or an index of a sequence. -/
inductive Segment where
  /-- A key of a mapping. -/
  | key (name : String)
  /-- An index of a sequence, from zero. -/
  | index (place : Nat)
  deriving DecidableEq, Repr

/-- The segment alone, without the punctuation of a path. -/
def Segment.text : Segment → String
  | .key k => k
  | .index i => ofNat i

/-- Keys come before indices; keys are ordered by their characters, indices by size. -/
def Segment.compare : Segment → Segment → Ordering
  | .key a, .key b => Ord.compare a b
  | .key _, .index _ => .lt
  | .index _, .key _ => .gt
  | .index a, .index b => Ord.compare a b

instance : Ord Segment := ⟨Segment.compare⟩

/-- The way from the root to a node (`NodePath`). -/
abbrev Path := List Segment

namespace Path

/-- The path of the root. -/
def root : Path := []

/-- The path of a child (`NodePath::child`). -/
def child (p : Path) (s : Segment) : Path := p ++ [s]

/-- Paths are ordered segment by segment; a path comes before its extensions. -/
def compare (p q : Path) : Ordering :=
  List.compareLex Ord.compare p q

/-- The characters of a simple key: ASCII letters and digits, the low line and the hyphen. -/
def isSimpleChar (c : Char) : Bool :=
  ('a' ≤ c && c ≤ 'z') || ('A' ≤ c && c ≤ 'Z') || isDigit c || c = '_' || c = '-'

/-- A key that needs no quotes (`is_simple_key`): some simple characters, the first of which is no digit. -/
def isSimpleKey : List Char → Bool
  | [] => false
  | c :: r => !isDigit c && (c :: r).all isSimpleChar

/-- A segment as it stands in a written path. -/
def segmentChars : Segment → List Char
  | .key k =>
    if isSimpleKey k.toList then '.' :: k.toList else '[' :: (Json.encode k.toList ++ [']'])
  | .index i => '[' :: (decimal i ++ [']'])

/-- The written form of a path. -/
def chars (p : Path) : List Char :=
  '$' :: p.flatMap segmentChars

/-- The written form of a path. -/
def render (p : Path) : String :=
  String.ofList p.chars

end Path

end DocLint
