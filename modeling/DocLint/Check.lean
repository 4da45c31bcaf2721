import DocLint.Rule
import DocLint.Selector
import DocLint.Regex.Pattern

/-!
# The rules of policies

A `BuiltinRule` makes one of five families of checks, each about the nodes that a selector finds:

* a *required* path has to lead somewhere, and a scalar there may have to satisfy a condition;
* a *forbidden* path must not lead anywhere;
* a *pattern* has to accept the strings at a path;
* an *order* has to be kept by the children of a node;
* a *type* has to be that of the nodes at a path.

A family judges node by node. The last three do not apply where the selector finds nothing because
something is missing; patterns and orders do not apply where no node found is of a shape they are about.
-/

namespace DocLint

/-- A condition on a required scalar (`Predicate`). -/
inductive Condition where
  /-- Neither null nor a string of white space alone. -/
  | notEmpty
  /-- Not null. -/
  | notNull
  deriving DecidableEq, Repr

/-- The wording of a condition. -/
def Condition.text : Condition → String
  | .notEmpty => "non-empty"
  | .notNull => "not null"

/-- Whether a scalar satisfies a condition (`satisfies`). -/
def Condition.holds : Condition → Scalar → Bool
  | _, .null => false
  | .notEmpty, .string s => !Text.isBlankText s
  | _, _ => true

/-- What a node can be expected to be (`ExpectedType`). -/
inductive Expected where
  /-- A mapping. -/
  | mapping
  /-- A sequence. -/
  | sequence
  /-- Any scalar. -/
  | scalar
  /-- A string. -/
  | string
  /-- An integer. -/
  | integer
  /-- Any number, integers included. -/
  | number
  /-- A truth value. -/
  | boolean
  /-- The absent value. -/
  | null
  deriving DecidableEq, Repr

/-- The name of what is expected. -/
def Expected.text : Expected → String
  | .mapping => "mapping"
  | .sequence => "sequence"
  | .scalar => "scalar"
  | .string => "string"
  | .integer => "integer"
  | .number => "number"
  | .boolean => "boolean"
  | .null => "null"

/-- Whether a node is what is expected (`matches_type`). -/
def Expected.holds : Expected → Node → Bool
  | .mapping, n => n.kind = .mapping
  | .sequence, n => n.kind = .sequence
  | .scalar, .scalar .. => true
  | .string, .scalar _ _ (.string _) => true
  | .integer, .scalar _ _ (.number (.integer _)) => true
  | .number, .scalar _ _ (.number _) => true
  | .boolean, .scalar _ _ (.boolean _) => true
  | .null, .scalar _ _ .null => true
  | _, _ => false

/-- What a node is, as a type check tells it: the type of a scalar, the kind of anything else. -/
def Node.typeName (n : Node) : String :=
  match n.value? with
  | some v => v.typeName
  | none => n.kind.text

/-- What is checked of the nodes that a selector finds, `Check::RequiredPath` and its siblings. -/
inductive Family where
  /-- They have to be there, and scalars may have to satisfy a condition. -/
  | required (condition : Option Condition)
  /-- They must not be there. -/
  | forbidden
  /-- They have to be strings that a pattern accepts. -/
  | pattern (pattern : Pattern)
  /-- Their children have to follow an order. Items of a sequence are labelled by themselves or by the
  entry under a key. -/
  | order (labels : List String) (labelKey : Option String)
  /-- They have to be of a type. -/
  | type (expected : Expected)

/-- The name of a family (`Check::family`). -/
def Family.name : Family → String
  | required _ => "required"
  | forbidden => "forbidden"
  | pattern _ => "pattern"
  | order .. => "order"
  | type _ => "type"

/-- A note about a node: the node and the message. -/
abbrev Note := Node × String

/-- What a family has to say about a document: notes, or why it does not apply. -/
abbrev Verdict := Except String (List Note)

namespace Selected

/-- The nodes that all steps lead to. -/
def nodes : List Selected → List Node
  | [] => []
  | .found n :: r => n :: nodes r
  | .missing .. :: r => nodes r

/-- The first thing missing. -/
def firstMissing? : List Selected → Option NotFound
  | [] => none
  | .found _ :: r => firstMissing? r
  | .missing _ e :: _ => some e

end Selected

/-- The nodes that a selector finds (`found_nodes`). Where it finds none and something is missing, there is
nothing to judge. -/
def foundNodes (selected : List Selected) : Except String (List Node) :=
  match Selected.nodes selected, Selected.firstMissing? selected with
  | [], some e => .error e.message
  | nodes, _ => .ok nodes

/-- What a required path has to say about one branch (`eval_required`). -/
def requiredNote (condition : Option Condition) : Selected → Option Note
  | .missing parent e => some (parent, "required path " ++ e.path.render ++ " is missing")
  | .found n =>
    match condition, n.value? with
    | some c, some v =>
      if c.holds v then none else some (n, n.path.render ++ " must be " ++ c.text)
    | _, _ => none

/-- What a forbidden path has to say about one branch (`eval_forbidden`). -/
def forbiddenNote : Selected → Option Note
  | .missing .. => none
  | .found n => some (n, "forbidden path " ++ n.path.render ++ " is present")

/-- What a pattern has to say about a scalar. -/
def patternNote (p : Pattern) (n : Node) (v : Scalar) : Option Note :=
  match v with
  | .string s =>
    if p.accepts s then none
    else some (n, "'" ++ s ++ "' at " ++ n.path.render ++ " does not match pattern '" ++ p.source ++ "'")
  | v =>
    some (n, n.path.render ++ " must be a string matching '" ++ p.source ++ "', found " ++ v.typeName)

/-- What a type has to say about a node (`eval_type`). -/
def typeNote (expected : Expected) (n : Node) : Option Note :=
  if expected.holds n then none
  else some (n, n.path.render ++ " must be " ++ expected.text ++ ", found " ++ n.typeName)

/-- Judges nodes one by one by a judgement that may not be about a node (`settle`). It does not apply if it
is about none of them, and then the first reason is given. -/
def judgeEach (judge : Node → Except String (List Note)) (nodes : List Node) : Verdict :=
  let verdicts := nodes.map judge
  let fitting := verdicts.filterMap Except.toOption
  match fitting, verdicts.findSome? fun v => match v with | .error e => some e | .ok _ => none with
  | [], some reason => .error reason
  | _, _ => .ok fitting.flatten

/-- What a pattern has to say about a node (`eval_pattern`). -/
def patternJudge (p : Pattern) (n : Node) : Except String (List Note) :=
  match n.value? with
  | some v => .ok (patternNote p n v).toList
  | none => .error (n.path.render ++ " is a " ++ n.kind.text ++ ", expected a scalar")

namespace Ranking

/-- The better of two ranked labels: the longer one, of equally long ones the later one. -/
def better (best : Option (Nat × String)) (next : Nat × String) : Option (Nat × String) :=
  match best with
  | some b => if next.2.length < b.2.length then some b else some next
  | none => some next

/-- The rank of a label (`rank_of`): the place, in the declared order, of the longest entry that it starts
with. -/
def rank? (order : List String) (label : String) : Option Nat :=
  let fitting := order.zipIdx.filter fun e => e.1.toList.isPrefixOf label.toList
  ((fitting.map fun e => (e.2, e.1)).foldl better none).map (·.1)

/-- The label of an item (`item_label`): its own text, or that of its entry under a key. -/
def itemLabel? (labelKey : Option String) (item : Node) : Option String :=
  match labelKey with
  | none => item.value?.map (·.text)
  | some k =>
    match item.child? (.key k) with
    | .ok n => n.value?.map (·.text)
    | .error _ => none

/-- The children of a container that have labels; none for a scalar. -/
def labelled? (labelKey : Option String) : Node → Option (List (String × Node))
  | .scalar .. => none
  | .mapping _ _ entries => some entries
  | .sequence _ _ items =>
    some (items.filterMap fun n => (itemLabel? labelKey n).map fun l => (l, n))

/-- Walks over labelled children. `top` is the greatest rank so far and the last label that had it. A
child of lesser rank is out of order. -/
def outOfOrder (order : List String) (top : Option (Nat × String)) : List (String × Node) → List Note
  | [] => []
  | (label, n) :: r =>
    match rank? order label with
    | none => outOfOrder order top r
    | some k =>
      match top with
      | none => outOfOrder order (some (k, label)) r
      | some (best, previous) =>
        if k < best then
          (n, "'" ++ label ++ "' must appear before '" ++ previous ++ "'") :: outOfOrder order top r
        else outOfOrder order (some (k, label)) r

/-- What an order has to say about a node (`eval_ordering`). -/
def judge (order : List String) (labelKey : Option String) (n : Node) : Except String (List Note) :=
  match labelled? labelKey n with
  | some children => .ok (outOfOrder order none children)
  | none => .error (n.path.render ++ " is a scalar, ordering needs a sequence or mapping")

end Ranking

/-- What a family has to say about the branches of a selector. -/
def Family.judge (f : Family) (selected : List Selected) : Verdict :=
  match f with
  | required condition => .ok (selected.filterMap (requiredNote condition))
  | forbidden => .ok (selected.filterMap forbiddenNote)
  | pattern p => foundNodes selected >>= judgeEach (patternJudge p)
  | order labels labelKey => foundNodes selected >>= judgeEach (Ranking.judge labels labelKey)
  | type expected => (foundNodes selected).map (·.filterMap (typeNote expected))

/-- The severity of a family's findings, where a policy names none. -/
def Family.severity : Family → Severity
  | required _ => .error
  | forbidden => .error
  | pattern _ => .warning
  | order .. => .warning
  | type _ => .error

/-- A check of a policy (`BuiltinRule`): a family, applied where a selector leads. -/
structure Check where
  /-- The name. -/
  name : String
  /-- The severity of its findings. -/
  severity : Severity
  /-- The message of its findings, instead of the family's own. -/
  message : Option String
  /-- Where it looks. -/
  selector : Selector
  /-- What it looks for. -/
  family : Family

namespace Check

/-- A note of the family as a finding (`BuiltinRule::finding`). -/
def finding (c : Check) (note : Note) : Finding :=
  .atNode note.1 c.name c.severity (c.message.getD note.2)

/-- What the check has to say about a document (`BuiltinRule::evaluate`). -/
def evaluate (c : Check) (root : Node) : Outcome :=
  match c.family.judge (c.selector.select root) with
  | .ok notes => .findings (notes.map c.finding)
  | .error reason => .inapplicable reason

/-- The family and where it looks (`BuiltinRule::describe`). -/
def summary (c : Check) : String :=
  c.family.name ++ " " ++ c.selector.text

/-- The check as a rule. It cancels nothing. -/
def toRule (c : Check) : Rule where
  name := c.name
  severity := c.severity
  summary := c.summary
  evaluate := c.evaluate
  cancels := fun _ => []

end Check

end DocLint
