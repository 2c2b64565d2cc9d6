import MetricFacade.Catalog
import MetricFacade.Rust.Token

/-!
# The items of a generated facade

What the generated code of one namespace consists of, before it becomes tokens: the fields
of the `Metrics` type, a constructor for each metric, and an accessor for each metric. The
items of a metric carry the identifiers as they stand in source text.
-/
namespace MetricFacade.Rust

open MetricFacade.Metric

/-- How a constructor asks for its buckets. -/
inductive BucketCall where
  | exponential (start factor : Float) (count : Nat)
  | linear (start width : Float) (count : Nat)
  | bounds (values : List Float)
  deriving Repr, DecidableEq

def BucketCall.ofSpec : Bucket.Spec → BucketCall
  | .exponential start factor count => .exponential start factor count
  | .linear start width count => .linear start width count
  | spec => .bounds spec.bounds

/-- The type that an accessor hands out. -/
def childType (kind : Kind) : String :=
  kind.name

/-- The type of the field that holds the metric. -/
def handleType (m : Resolved) : String :=
  if m.labels.isEmpty then m.kind.name else m.kind.name ++ "Vec"

/-- The statement that builds a metric. -/
structure Constructor where
  field : String
  handle : String
  /-- The options type is the one for histograms. -/
  forHistogram : Bool
  name : String
  help : String
  buckets : Option BucketCall
  labels : List String
  deriving Repr, DecidableEq

def Constructor.ofMetric (m : Resolved) : Constructor where
  field := Ident.writtenMember m.field
  handle := handleType m
  forHistogram := m.kind = .histogram || m.buckets.isSome
  name := m.name
  help := m.help
  buckets := m.buckets.map BucketCall.ofSpec
  labels := m.labels

/-- The method that hands a metric out. -/
structure Accessor where
  name : String
  field : String
  help : String
  child : String
  /-- One for each label, in order. -/
  params : List String
  /-- Some parameter would be found fault with for not being in snake case. -/
  allowsOtherCase : Bool
  deriving Repr, DecidableEq

def paramNames (labels : List String) : List String :=
  labels.zipIdx.map fun (label, i) => Ident.written (Ident.param label i)

def Accessor.ofMetric (m : Resolved) : Accessor where
  name := Ident.writtenMember m.accessor
  field := Ident.writtenMember m.field
  help := m.help
  child := childType m.kind
  params := paramNames m.labels
  allowsOtherCase := Ident.needsSnakeCaseAllowance m.labels

/-- All items of one namespace. -/
structure FacadeItems where
  scope : String
  constructors : List Constructor
  accessors : List Accessor
  deriving Repr, DecidableEq

def FacadeItems.ofFacade (f : Facade) : FacadeItems where
  scope := f.scope
  constructors := f.metrics.map Constructor.ofMetric
  accessors := f.metrics.map Accessor.ofMetric

end MetricFacade.Rust
