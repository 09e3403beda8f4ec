import Chartwright.Chart.Problem
import Chartwright.Metadata.Key
import Chartwright.Spec.Application

/-!
# Metadata rules

Rules set labels or annotations on the objects of a kind. They are merged in order, so a later
rule wins; a malformed key anywhere spoils all of them.
-/

namespace Chartwright

/-- Labels or annotations for each kind of object. -/
structure Buckets where
  deployment : Dict String String
  service : Dict String String
  pod : Dict String String
deriving DecidableEq, Repr

namespace Buckets

/-- Nothing for any kind. -/
def empty : Buckets := ⟨[], [], []⟩

/-- The bucket of a kind. -/
def get (b : Buckets) : TargetKind → Dict String String
  | .deployment => b.deployment
  | .service => b.service
  | .pod => b.pod

/-- Sets values in the bucket of a kind. -/
def merge (b : Buckets) (kind : TargetKind) (values : Dict String String) : Buckets :=
  match kind with
  | .deployment => { b with deployment := Dict.merge b.deployment values }
  | .service => { b with service := Dict.merge b.service values }
  | .pod => { b with pod := Dict.merge b.pod values }

/-- The document of the buckets. -/
def toDocument (b : Buckets) : Document :=
  .object [("deployment", .textTable b.deployment), ("service", .textTable b.service),
    ("pod", .textTable b.pod)]

end Buckets

namespace MetadataRule

/-- The first malformed key of some rules. -/
def firstMalformed? (rules : List MetadataRule) : Option String :=
  (rules.flatMap fun rule => Dict.keys rule.apply).find? (!MetadataKey.isValid ·)

/-- Refuses rules with a malformed key. -/
def checkAll (rules : List MetadataRule) : Except CompileProblem Unit :=
  match firstMalformed? rules with
  | some key => .error (.malformedKey key)
  | none => .ok ()

/-- Whether a rule is about a process of a deployment. -/
def covers (rule : MetadataRule) (version : Int) (process : String) : Bool :=
  (rule.version = 0 || rule.version = version) && (rule.process = "" || rule.process = process)

/-- Whether a rule is about a process of a deployment and names a known kind. -/
def applies (rule : MetadataRule) (version : Int) (process : String) : Bool :=
  rule.target.kind?.isSome && rule.covers version process

/-- Merges a rule into the buckets if it applies. -/
def mergeInto (version : Int) (process : String) (b : Buckets) (rule : MetadataRule) : Buckets :=
  match rule.target.kind? with
  | some kind => if rule.covers version process then b.merge kind rule.apply else b
  | none => b

/-- Merges the rules that apply, in order. -/
def mergeAll (rules : List MetadataRule) (version : Int) (process : String) : Buckets :=
  rules.foldl (mergeInto version process) .empty

/-- The buckets of some rules, unless one of them has a malformed key. -/
def resolve (rules : List MetadataRule) (version : Int) (process : String) :
    Except CompileProblem Buckets := do
  checkAll rules
  return mergeAll rules version process

end MetadataRule

end Chartwright
