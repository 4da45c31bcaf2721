import DocLint.Run
import DocLint.Script
import DocLint.Report.Json
import DocLint.Report.Text

/-!
# Sessions

A session holds documents, a profile, overrides and a token, and runs the profile on the documents, as an
`Evaluator` does with a `CancellationToken`. An operation that fails leaves the session as it was.
-/

namespace DocLint

/-- Why an operation of a session fails. -/
inductive SessionError where
  /-- There is no document of this number. -/
  | noDocument
  /-- There is no earlier report. -/
  | noReport
  /-- The run was called off. -/
  | cancelled
  deriving DecidableEq, Repr

/-- The wording of a run that was called off. -/
def cancelledMessage : String := "lint run cancelled"

/-- Documents and how they are linted (`Evaluator`). -/
structure Session where
  /-- The documents, numbered from zero. -/
  documents : List Document
  /-- The rules. -/
  profile : Profile
  /-- The severities chosen by rule name. -/
  overrides : Overrides
  /-- How rules are evaluated. -/
  mode : Mode
  /-- The token that the next run looks at. Tokens are used in numerical order. -/
  token : Token
  /-- The tokens that have been cancelled. -/
  cancelled : Cancelled
  /-- The last report. -/
  last : Option Report

namespace Session

/-- A session without documents and rules. -/
def start : Session :=
  { documents := []
    profile := .empty
    overrides := .empty
    mode := .parallel
    token := 0
    cancelled := []
    last := none }

/-- Adds a document. -/
def addDocument (s : Session) (d : Document) : Session :=
  { s with documents := s.documents ++ [d] }

/-- Whether the token has been cancelled (`CancellationToken::is_cancelled`). -/
def isCancelled (s : Session) : Bool := s.cancelled.contains s.token

/-- Cancels the token (`CancellationToken::cancel`). -/
def cancel (s : Session) : Session := { s with cancelled := s.token :: s.cancelled }

/-- Goes over to a fresh token. -/
def newToken (s : Session) : Session := { s with token := s.token + 1 }

/-- The findings of a document in order, before overrides. -/
def collectDocument (s : Session) (d : Document) : Option (List Finding) :=
  collectWith (s.cancelled.answers s.token s.profile.rules d) s.mode s.profile d

/-- The session after a run on a document, whether or not it was called off. -/
def afterRun (s : Session) (d : Document) : Session :=
  { s with cancelled := s.cancelled.afterRun s.token s.profile.rules d }

/-- The findings of a document in order, before overrides (`Evaluator::collect`). -/
def collect (s : Session) (number : Nat) : Except SessionError (List Finding) × Session :=
  match s.documents[number]? with
  | none => (.error .noDocument, s)
  | some d =>
    match s.collectDocument d with
    | none => (.error .cancelled, s.afterRun d)
    | some fs => (.ok fs, s.afterRun d)

/-- The report of a document (`Evaluator::lint`). -/
def lint (s : Session) (number : Nat) : Except SessionError Report × Session :=
  match s.collect number with
  | (.error e, s') => (.error e, s')
  | (.ok fs, s') =>
    let r := Report.aggregate fs s.overrides s.profile.size
    (.ok r, { s' with last := some r })

/-- The findings of the last report aggregated once more, and whether that changes the report. -/
def reaggregate (s : Session) : Except SessionError (Report × Bool) × Session :=
  match s.last with
  | none => (.error .noReport, s)
  | some old =>
    let r := Report.aggregate old.findings s.overrides old.rulesEvaluated
    (.ok (r, r = old), { s with last := some r })

/-- What the looks of a batch see whose runs come one after the other. -/
def looks (s : Session) (ds : List Document) (i : Nat) : Nat → Bool :=
  match ds[i]? with
  | some d => ((ds.take i).foldl afterRun s).cancelled.answers s.token s.profile.rules d
  | none => undisturbed

/-- The report of each document in order (`Evaluator::lint_batch`); none for those whose run was called off. -/
def batch (s : Session) (ds : List Document) : List (Option Report) × Session :=
  (lintBatch (s.looks ds) s.mode s.profile s.overrides ds, ds.foldl afterRun s)

/-- The name by which a batch calls a document. -/
def documentName (number : Nat) : String :=
  "doc" ++ Text.ofNat number ++ ".json"

/-- Reports with the names of their documents. -/
def named (reports : List (Option Report)) : List (String × Option Report) :=
  reports.zipIdx.map fun e => (documentName e.2, e.1)

/-- The reports that are there, as one line of JSON (`compose_batch_json`). -/
def batchJson (reports : List (Option Report)) : String :=
  (Report.batchValue ((named reports).filterMap fun e => e.2.map fun r => (e.1, r))).compact

end Session

end DocLint
