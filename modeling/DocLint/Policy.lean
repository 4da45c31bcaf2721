import DocLint.Profile
import DocLint.Toml.Fields
import DocLint.Toml.Reader

/-!
# Policies

A policy is a TOML document with a list of tables `rules`, one for each rule (`RuleSpec`), and read by
`Policy::from_toml_str`. The key `kind` of a table says what is asked for and with it which other keys there
have to be. Keys that mean nothing are ignored. A list may stand for a table: it gives the kind and then the
values of the keys in their order, of which the last ones may be left out if they need not be there.
-/

namespace DocLint

open Toml (Table Value)

/-- Why a TOML document is no policy. -/
inductive PolicyError where
  /-- The text is not TOML. -/
  | malformed (fault : Toml.Fault)
  /-- A field that is not there, or not of the type it has to be. -/
  | field (cause : Toml.FieldError)
  /-- The value under a key is none of those allowed. -/
  | unknown (key value : String)
  /-- A severity that does not exist. -/
  | severity (cause : UnknownSeverity)
  deriving DecidableEq, Repr

/-- Why a TOML document is no policy, as it is told to people. -/
def PolicyError.message : PolicyError → String
  | .malformed f => f.message
  | .field e => e.message
  | .unknown k v => "unknown value `" ++ v ++ "` for field `" ++ k ++ "`"
  | .severity e => e.message

/-- The condition that a policy names. -/
def Condition.read? (s : String) : Option Condition :=
  if s = "non-empty" then some .notEmpty
  else if s = "not-null" then some .notNull
  else none

/-- What a policy expects by a name. -/
def Expected.read? (s : String) : Option Expected :=
  [mapping, sequence, scalar, string, integer, number, boolean, null].find? (·.text = s)

/-- A fault of a field is a fault of the policy. -/
instance : MonadLift (Except Toml.FieldError) (Except PolicyError) where
  monadLift r := r.mapError .field

namespace PolicyEntry

/-- The severity under a key, if the key is there. -/
def severity? (t : Table) (key : String) : Except PolicyError (Option Severity) := do
  match ← t.text? key with
  | none => return none
  | some s => (Severity.read s).map some |>.mapError .severity

/-- What a table asks for. -/
def demandOf (t : Table) : Except PolicyError Demand := do
  match ← t.text "kind" with
  | "required" =>
    match ← t.word? "predicate" with
    | none => return .required none
    | some s =>
      match Condition.read? s with
      | some c => return .required (some c)
      | none => throw (.unknown "predicate" s)
  | "forbidden" => return .forbidden
  | "pattern" => return .pattern (← t.text "regex")
  | "order" => return .order (← t.texts "order") (← t.text? "by")
  | "type" =>
    match ← t.word? "expect" with
    | none => throw (.field (.missing "expect"))
    | some s =>
      match Expected.read? s with
      | some e => return .type e
      | none => throw (.unknown "expect" s)
  | kind => throw (.unknown "kind" kind)

/-- The entry of a table. -/
def ofTable (t : Table) : Except PolicyError PolicyEntry := do
  return {
    demand := ← demandOf t
    name := ← t.text "name"
    path := ← t.text "path"
    level := ← severity? t "level"
    message := ← t.text? "message" }

/-- The keys of a table of some kind, in the order in which a list gives their values. -/
def keysOf (kind : String) : List String :=
  let own :=
    match kind with
    | "required" => ["predicate"]
    | "pattern" => ["regex"]
    | "order" => ["order", "by"]
    | "type" => ["expect"]
    | _ => []
  "name" :: "path" :: (own ++ ["level", "message"])

/-- The entry of a list. -/
def ofItems : List Value → Except PolicyError PolicyEntry
  | [] => .error (.field (.missing "kind"))
  | kind :: items =>
    let keys :=
      match kind with
      | .string s => keysOf s
      | _ => []
    if keys.length < items.length then .error (.field (.wrongType "rules"))
    else ofTable (("kind", kind) :: keys.zip items)

/-- The entry of a value. Its integers have to fit 64 bits, even under keys that mean nothing. -/
def ofValue (v : Value) : Except PolicyError PolicyEntry :=
  if !v.fitsWords then .error (.field (.wrongType "rules"))
  else
    match v with
    | .table t => ofTable t
    | .array items => ofItems items
    | _ => .error (.field (.wrongType "rules"))

end PolicyEntry

namespace Policy

/-- The entries of a document. -/
def ofTable (t : Table) : Except PolicyError (List PolicyEntry) :=
  match t.get? "rules" with
  | none => .ok []
  | some (.array items) => items.mapM PolicyEntry.ofValue
  | some _ => .error (.field (.wrongType "rules"))

/-- Reads a policy (`Policy::from_toml_str`). -/
def read (source : String) : Except PolicyError (List PolicyEntry) :=
  match Toml.read source with
  | .ok t => ofTable t
  | .error f => .error (.malformed f)

end Policy

end DocLint
