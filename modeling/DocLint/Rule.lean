import DocLint.Finding

/-!
# Rules

A rule has a name and a severity and judges a document by its root. It may find something or nothing, it
may not apply to documents of this shape, and it may break down. What the rules of a policy do is a
matter of `Check`; a rule as such is an arbitrary function, as whatever implements `Rule::evaluate` is.

Evaluating a rule may also call off runs: it names the tokens that are cancelled by it.
-/

namespace DocLint

/-- How the evaluation of a rule ends (`Rule::evaluate`). -/
inductive Outcome where
  /-- With findings, perhaps none. -/
  | findings (found : List Finding)
  /-- The document is not of a shape that the rule is about. -/
  | inapplicable (reason : String)
  /-- The rule itself reports a fault. -/
  | failed (message : String)
  /-- The rule breaks down, perhaps with a message. -/
  | crashed (message : Option String)
  deriving DecidableEq, Repr

/-- The outcome as it is told to people, if it is none of findings. -/
def Outcome.message? : Outcome → Option String
  | .findings _ => none
  | .inapplicable reason => some ("rule does not apply: " ++ reason)
  | .failed message => some ("internal rule error: " ++ message)
  | .crashed message => message

/-- The name of a flag by which a run can be called off (`CancellationToken`). -/
abbrev Token := Nat

/-- A named check of documents. -/
structure Rule where
  /-- The name. -/
  name : String
  /-- The severity of its findings. -/
  severity : Severity
  /-- What it checks, in a few words. -/
  summary : String
  /-- Judges a document by its root. -/
  evaluate : Node → Outcome
  /-- The tokens that evaluating it cancels. -/
  cancels : Node → List Token

end DocLint
