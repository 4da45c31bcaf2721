import DocLint.Profile
import DocLint.Report

/-!
# Runs

A run evaluates every rule of a profile on a document (`Evaluator::collect`). Each rule is on its own
(`run_rule`): what breaks down inside a rule becomes one finding about that rule and disturbs no other.
The findings are put in order afterwards, so neither the order of the rules nor the mode of the run
shows in the result.

A run can be called off by a token (`CancellationToken`). The token is looked at once at the start and once
before each rule; `answers k` is what the `k`-th look sees. A run that is called off has no result at all.
-/

namespace DocLint

/-- How rules are evaluated. -/
inductive Mode where
  /-- One rule after the other. -/
  | sequential
  /-- All rules at once. -/
  | parallel
  deriving DecidableEq, Repr

/-- The finding about a rule that broke down (`internal_error`). -/
def brokenRule (name message : String) : Finding :=
  { rule := name ++ ":internal-error"
    severity := .error
    message := "rule '" ++ name ++ "' failed: " ++ message
    path := Path.root
    span := Span.start }

/-- The first finding at a path that the document does not have. -/
def dangling? (d : Document) (fs : List Finding) : Option Finding :=
  fs.find? fun f => match d.resolve f.path with | .ok _ => false | .error _ => true

/-- What a rule contributes to a run (`run_rule`). Findings at paths that the document does not have count as
a breakdown of the rule. -/
def Rule.run (r : Rule) (d : Document) : List Finding :=
  match r.evaluate d.root with
  | .findings fs =>
    match dangling? d fs with
    | none => fs
    | some f => [brokenRule r.name ("reported a diagnostic at unknown path " ++ f.path.render)]
  | .inapplicable _ => []
  | .failed message => [brokenRule r.name message]
  | .crashed message =>
    [brokenRule r.name ("panicked: " ++ message.getD "unknown panic payload")]

/-- What the rules evaluated before the first look that says stop contribute, one after the other, and
whether there was such a look. `k` is the number of the next look. -/
def runSequential (answers : Nat → Bool) (d : Document) (k : Nat) :
    List Rule → List (List Finding) × Bool
  | [] => ([], false)
  | r :: rs =>
    if answers k then ([], true)
    else
      let (rest, stopped) := runSequential answers d (k + 1) rs
      (r.run d :: rest, stopped)

/-- What each rule contributes, unless a look says stop: every rule has its own look, and none
depends on another. -/
def runParallel (answers : Nat → Bool) (d : Document) (k : Nat) (rs : List Rule) :
    List (Option (List Finding)) :=
  rs.zipIdx.map fun e => if answers (k + e.2) then none else some (e.1.run d)

/-- All findings of a run in order, before overrides (`Evaluator::collect`); none if the run was called off. -/
def collectWith (answers : Nat → Bool) (mode : Mode) (p : Profile) (d : Document) :
    Option (List Finding) :=
  if answers 0 then none
  else
    let contributions : Option (List (List Finding)) :=
      match mode with
      | .sequential =>
        match runSequential answers d 1 p.rules with
        | (found, false) => some found
        | (_, true) => none
      | .parallel => (runParallel answers d 1 p.rules).mapM id
    contributions.map fun found => Finding.sort found.flatten

/-- The report of a run (`Evaluator::lint`); none if the run was called off. -/
def lintWith (answers : Nat → Bool) (mode : Mode) (p : Profile) (o : Overrides) (d : Document) :
    Option Report :=
  (collectWith answers mode p d).map fun fs => Report.aggregate fs o p.size

/-- The reports of some documents, in the order of the documents (`Evaluator::lint_batch`); none for a run
that was called off. Every document has a run of its own, and `answers i k` is what the `k`-th look of the
`i`-th run sees. -/
def lintBatch (answers : Nat → Nat → Bool) (mode : Mode) (p : Profile) (o : Overrides)
    (ds : List Document) : List (Option Report) :=
  ds.mapIdx fun i d => lintWith (answers i) mode p o d

/-- The looks of a run that nothing calls off. -/
def undisturbed : Nat → Bool := fun _ => false

/-- The tokens that have been cancelled. -/
abbrev Cancelled := List Token

namespace Cancelled

/-- What the looks of a run see: the token may have been cancelled before the run, or by a rule that came
before the look. -/
def answers (c : Cancelled) (token : Token) (rules : List Rule) (d : Document) (k : Nat) : Bool :=
  c.contains token || (rules.take (k - 1)).any fun r => (r.cancels d.root).contains token

/-- The number of rules that a run evaluates before it is called off. -/
def evaluated (looks : Nat → Bool) (rules : List Rule) : Nat :=
  ((List.range rules.length).takeWhile fun k => !looks 0 && !looks (k + 1)).length

/-- The tokens cancelled after a run: those before it and those that the evaluated rules cancel. -/
def afterRun (c : Cancelled) (token : Token) (rules : List Rule) (d : Document) : Cancelled :=
  let n := evaluated (c.answers token rules d) rules
  ((rules.take n).flatMap fun r => r.cancels d.root) ++ c

end Cancelled

end DocLint
