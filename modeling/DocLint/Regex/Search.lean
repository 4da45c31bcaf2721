import DocLint.Regex.Expr
import Std.Data.HashSet

/-!
# Searching a text

A text matches when some stretch of it satisfies an expression. The search runs over the text once and
keeps, for the characters read so far, what the rest may still satisfy: reading a character takes each term
to its residues. Greed and groups do not matter for that and are no part of a term, and the classes of an
expression are numbered, so that a character is looked up once in each of them.
-/

namespace DocLint.Regex

open DocLint.Text

/-- The characters on both sides of a place. -/
structure Place where
  /-- The character before the place, if it is not the start of the text. -/
  before : Option Char
  /-- The character after the place, if it is not the end of the text. -/
  after : Option Char

/-- Whether a word character stands on a side. -/
def isWord (unicode : Bool) : Option Char → Bool
  | some c => (CharClass.word unicode).holds c.toNat
  | none => false

/-- Whether a place satisfies a condition. -/
def Look.holds (l : Look) (p : Place) : Bool :=
  match l with
  | textStart => p.before.isNone
  | textEnd => p.after.isNone
  | lineStart => p.before.isNone || p.before = some '\n'
  | lineEnd => p.after.isNone || p.after = some '\n'
  | anyLineStart =>
    p.before.isNone || p.before = some '\n' || (p.before = some '\r' && p.after ≠ some '\n')
  | anyLineEnd =>
    p.after.isNone || p.after = some '\r' || (p.after = some '\n' && p.before ≠ some '\r')
  | wordEdge u => isWord u p.before != isWord u p.after
  | noWordEdge u => isWord u p.before == isWord u p.after
  | wordStart u => !isWord u p.before && isWord u p.after
  | wordEnd u => isWord u p.before && !isWord u p.after
  | wordStartHalf u => !isWord u p.before
  | wordEndHalf u => !isWord u p.after

/-- What a stretch of text has to satisfy. -/
inductive Term where
  /-- The empty text. -/
  | empty
  /-- Some characters in a row. -/
  | literal (cs : List Char)
  /-- One character of the class with a number. -/
  | one (k : Nat)
  /-- The empty text, at a place that satisfies a condition. -/
  | look (l : Look)
  /-- One term after the other. -/
  | cat (a b : Term)
  /-- One of two terms. -/
  | alt (a b : Term)
  /-- A term, at least `least` and at most `most` times. -/
  | times (a : Term) (least : Nat) (most : Option Nat)
  deriving BEq, Hashable

/-- Numbers a class after those that have been numbered. -/
def classNumber (k : CharSet) : StateM (Array CharSet) Nat := fun ks =>
  match ks.findIdx? (· == k) with
  | some n => (n, ks)
  | none => (ks.size, ks.push k)

mutual

/-- The term of an expression. -/
def Expr.term : Expr → StateM (Array CharSet) Term
  | .empty => pure .empty
  | .literal cs => pure (.literal cs)
  | .one k => Term.one <$> classNumber k
  | .look l => pure (.look l)
  | .times _ least most a => return .times (← a.term) least most
  | .group _ a => a.term
  | .sequence parts => termOfParts parts
  | .choice branches => termOfBranches branches

/-- The term of some expressions in a row. -/
def termOfParts : List Expr → StateM (Array CharSet) Term
  | [] => pure .empty
  | a :: r => return .cat (← a.term) (← termOfParts r)

/-- The term of one of some expressions. -/
def termOfBranches : List Expr → StateM (Array CharSet) Term
  | [] => return .one (← classNumber CharSet.empty)
  | [a] => a.term
  | a :: r => return .alt (← a.term) (← termOfBranches r)

end

namespace Term

/-- Whether the empty text satisfies a term at a place. -/
def nullable (p : Place) : Term → Bool
  | empty => true
  | literal cs => cs.isEmpty
  | one _ => false
  | look l => l.holds p
  | cat a b => a.nullable p && b.nullable p
  | alt a b => a.nullable p || b.nullable p
  | times a least _ => least == 0 || a.nullable p

/-- One term after another; the empty text in front is dropped. -/
def andThen : Term → Term → Term
  | empty, b => b
  | a, b => cat a b

/-- What the rest of a text may satisfy after a character has been read at a place. `holds` tells to which
classes the character belongs. Where a repeated term may be empty, the repetitions in front of the one that
reads the character may all be. -/
def residues (p : Place) (c : Char) (holds : Nat → Bool) : Term → List Term
  | empty => []
  | literal [] => []
  | literal [d] => if c = d then [empty] else []
  | literal (d :: ds) => if c = d then [literal ds] else []
  | one k => if holds k then [empty] else []
  | look _ => []
  | cat a b =>
    (a.residues p c holds).map (·.andThen b) ++ if a.nullable p then b.residues p c holds else []
  | alt a b => a.residues p c holds ++ b.residues p c holds
  | times a least most =>
    if most = some 0 then []
    else
      let least := if a.nullable p then 0 else least - 1
      (a.residues p c holds).map (·.andThen (times a least (most.map (· - 1))))

end Term

/-- A term together with the classes that it numbers. -/
structure Machine where
  /-- The term. -/
  term : Term
  /-- The classes. -/
  classes : Array CharSet

namespace Machine

/-- The machine of an expression. -/
def ofExpr (e : Expr) : Machine :=
  let (t, ks) := e.term.run #[]
  ⟨t, ks⟩

/-- What is left of some terms, without repeats. -/
def distinct (terms : List Term) : List Term :=
  let step : Std.HashSet Term × List Term → Term → Std.HashSet Term × List Term := fun (seen, done) t =>
    if seen.contains t then (seen, done) else (seen.insert t, t :: done)
  match terms with
  | [] => []
  | [t] => [t]
  | _ => (terms.foldl step (∅, [])).2

/-- Runs over the rest of a text. `pending` are the terms that the rest may satisfy for a stretch that
started earlier; a new stretch may start at every place. -/
def search (m : Machine) (before : Option Char) (pending : List Term) : List Char → Bool
  | [] => (m.term :: pending).any (·.nullable ⟨before, none⟩)
  | c :: r =>
    let p : Place := ⟨before, some c⟩
    (m.term :: pending).any (·.nullable p) ||
      let member := m.classes.map (·.holds c.toNat)
      let holds := fun k => member[k]?.getD false
      m.search (some c) (distinct ((m.term :: pending).flatMap (·.residues p c holds))) r

/-- Whether some stretch of a text satisfies the term. -/
def accepts (m : Machine) (s : String) : Bool := m.search none [] s.toList

end Machine

end DocLint.Regex
