import DocLint.Json.Grammar
import DocLint.Json.Number

/-!
# Proofs: the written forms of JSON

A form is a JSON text as a tree: which literals it is made of, how they nest, and the white space
between them. A form carries the proofs that its literals are well-formed, so its text is always JSON, and
`Writing.text` turns a whole form back into the text it stands for. The checker of `Json.Grammar` and
the reader of `Document.Reader` are both related to forms.
-/

namespace DocLint.Json

open DocLint.Text

/-- White space between two tokens, perhaps none. -/
structure Gap where
  /-- The characters. -/
  chars : List Char
  /-- They are white space. -/
  blank : ∀ c ∈ chars, isSpace c = true

/-- No white space. -/
def Gap.none : Gap := ⟨[], by simp⟩

/-- Some digits, at least one. -/
structure Digits where
  /-- The characters. -/
  chars : List Char
  /-- There is one. -/
  nonempty : chars ≠ []
  /-- They are digits. -/
  digits : ∀ c ∈ chars, isDigit c = true

/-- The sign of an exponent. -/
inductive Sign where
  /-- No sign. -/
  | none
  /-- A plus sign. -/
  | plus
  /-- A minus sign. -/
  | minus
  deriving DecidableEq

/-- The text of a sign. -/
def Sign.text : Sign → List Char
  | none => []
  | plus => ['+']
  | minus => ['-']

/-- An exponent. -/
structure Power where
  /-- The letter in front. -/
  mark : Char
  /-- It is an `e` of either case. -/
  mark_eq : mark = 'e' ∨ mark = 'E'
  /-- The sign. -/
  sign : Sign
  /-- The digits. -/
  digits : Digits

/-- The text of an exponent. -/
def Power.text (p : Power) : List Char :=
  p.mark :: (p.sign.text ++ p.digits.chars)

/-- A number. -/
structure Numeral where
  /-- Whether it starts with a minus sign. -/
  negative : Bool
  /-- The digits before the point. -/
  whole : Digits
  /-- A zero in front stands alone. -/
  canonical : whole.chars.head? = some '0' → whole.chars = ['0']
  /-- The digits after the point, if there is one. -/
  fraction : Option Digits
  /-- The exponent, if there is one. -/
  power : Option Power

/-- The text of a fraction. -/
def fractionText : Option Digits → List Char
  | none => []
  | some ds => '.' :: ds.chars

/-- The text of an exponent, if there is one. -/
def powerText : Option Power → List Char
  | none => []
  | some p => p.text

/-- The text of a number without its sign. -/
def Numeral.magnitude (n : Numeral) : List Char :=
  n.whole.chars ++ (fractionText n.fraction ++ powerText n.power)

/-- The text of a number. -/
def Numeral.text (n : Numeral) : List Char :=
  if n.negative then '-' :: n.magnitude else n.magnitude

/-- A word. -/
inductive Word where
  /-- The absent value. -/
  | null
  /-- A truth value. -/
  | boolean (value : Bool)
  deriving DecidableEq

/-- The text of a word. -/
def Word.text : Word → List Char
  | null => ['n', 'u', 'l', 'l']
  | boolean true => ['t', 'r', 'u', 'e']
  | boolean false => ['f', 'a', 'l', 's', 'e']

/-- A character of a string, as it is written. -/
inductive Piece where
  /-- A character that stands for itself. -/
  | plain (c : Char) (h : c ≠ '"' ∧ c ≠ '\\' ∧ ¬ c.toNat < 0x20)
  /-- An escape by a letter. -/
  | short (c : Char) (h : (simpleEscape? c).isSome = true)
  /-- An escape by four hexadecimal digits. -/
  | code (a b c d : Char) (h : (quad? a b c d).isSome = true)

/-- The text of a piece. -/
def Piece.text : Piece → List Char
  | plain c _ => [c]
  | short c _ => ['\\', c]
  | code a b c d _ => ['\\', 'u', a, b, c, d]

/-- The text of a string between its quotes. -/
def insideText (ps : List Piece) : List Char :=
  ps.flatMap Piece.text

/-- The text of a string. -/
def quotedText (ps : List Piece) : List Char :=
  '"' :: (insideText ps ++ ['"'])

/-- A literal. -/
inductive Leaf where
  /-- A word. -/
  | word (w : Word)
  /-- A number. -/
  | number (n : Numeral)
  /-- A string. -/
  | string (ps : List Piece)

/-- The text of a literal. -/
def Leaf.text : Leaf → List Char
  | word w => w.text
  | number n => n.text
  | string ps => quotedText ps

mutual

/-- A value. -/
inductive Form where
  /-- A literal. -/
  | leaf (l : Leaf)
  /-- A list without items. -/
  | emptyList (inside : Gap)
  /-- A list with items. -/
  | list (items : Items)
  /-- An object without entries. -/
  | emptyObject (inside : Gap)
  /-- An object with entries. -/
  | object (entries : Entries)

/-- The items of a list, up to its closing bracket. -/
inductive Items where
  /-- The last item. -/
  | last (before : Gap) (value : Form) (after : Gap)
  /-- An item and more. -/
  | more (before : Gap) (value : Form) (after : Gap) (rest : Items)

/-- The entries of an object, up to its closing brace. -/
inductive Entries where
  /-- The last entry. -/
  | last (before : Gap) (key : List Piece) (afterKey beforeValue : Gap) (value : Form) (after : Gap)
  /-- An entry and more. -/
  | more (before : Gap) (key : List Piece) (afterKey beforeValue : Gap) (value : Form) (after : Gap)
      (rest : Entries)

end

/-- The text of an entry, given that of its value. -/
def entryText (key : List Piece) (afterKey beforeValue : Gap) (value : List Char) : List Char :=
  quotedText key ++ (afterKey.chars ++ ':' :: (beforeValue.chars ++ value))

mutual

/-- The text of a value. -/
def Form.text : Form → List Char
  | .leaf l => l.text
  | .emptyList g => '[' :: (g.chars ++ [']'])
  | .list is => '[' :: is.text
  | .emptyObject g => '{' :: (g.chars ++ ['}'])
  | .object es => '{' :: es.text

/-- The text of the items of a list and its closing bracket. -/
def Items.text : Items → List Char
  | .last b v a => b.chars ++ (v.text ++ (a.chars ++ [']']))
  | .more b v a r => b.chars ++ (v.text ++ (a.chars ++ ',' :: r.text))

/-- The text of the entries of an object and its closing brace. -/
def Entries.text : Entries → List Char
  | .last b k g g' v a => b.chars ++ (entryText k g g' v.text ++ (a.chars ++ ['}']))
  | .more b k g g' v a r => b.chars ++ (entryText k g g' v.text ++ (a.chars ++ ',' :: r.text))

end

mutual

/-- The literals of a value, in the order of the text. -/
def Form.leaves : Form → List Leaf
  | .leaf l => [l]
  | .emptyList _ => []
  | .list is => is.leaves
  | .emptyObject _ => []
  | .object es => es.leaves

/-- The literals of the items of a list. -/
def Items.leaves : Items → List Leaf
  | .last _ v _ => v.leaves
  | .more _ v _ r => v.leaves ++ r.leaves

/-- The literals of the entries of an object, keys included. -/
def Entries.leaves : Entries → List Leaf
  | .last _ k _ _ v _ => .string k :: v.leaves
  | .more _ k _ _ v _ r => .string k :: (v.leaves ++ r.leaves)

end

/-- A whole text: a value with white space around it. -/
structure Writing where
  /-- The white space in front. -/
  before : Gap
  /-- The value. -/
  form : Form
  /-- The white space at the end. -/
  after : Gap

/-- A written value as a text. -/
def Writing.text (w : Writing) : List Char :=
  w.before.chars ++ (w.form.text ++ w.after.chars)

/-- A value without white space around it. -/
def Form.alone (t : Form) : Writing := ⟨.none, t, .none⟩

theorem Form.alone_text (t : Form) : t.alone.text = t.text := by
  simp [Form.alone, Writing.text, Gap.none]

end DocLint.Json
