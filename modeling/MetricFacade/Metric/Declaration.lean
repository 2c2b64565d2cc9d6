import MetricFacade.Bucket.Spec

/-!
# Metric declarations

A metric as it is asked for, nothing yet checked or completed: its kind, the namespace that
exposes it, and what it is to be called. A namespace is a path of segments parted by `::`.
Reading goes from the left, so of three colons in a row the first two part and the third
begins the next segment.
-/
namespace MetricFacade.Text

def splitPathChars : List Char → List (List Char)
  | [] => [[]]
  | ':' :: ':' :: rest => [] :: splitPathChars rest
  | c :: rest =>
    match splitPathChars rest with
    | [] => [[c]]
    | segment :: segments => (c :: segment) :: segments

/-- The segments of a namespace; there is always at least one. -/
def segments (scope : String) : List String :=
  (splitPathChars scope.toList).map String.ofList

/-- The namespace with these segments. -/
def joinPath (segments : List String) : String :=
  "::".intercalate segments

end MetricFacade.Text

namespace MetricFacade.Metric

inductive Kind where
  | counter
  | gauge
  | histogram
  deriving Repr, DecidableEq

namespace Kind

/-- The name in messages and in generated types. -/
def name : Kind → String
  | counter => "Counter"
  | gauge => "Gauge"
  | histogram => "Histogram"

/-- The name in manifests and descriptions. -/
def tag : Kind → String
  | counter => "counter"
  | gauge => "gauge"
  | histogram => "histogram"

def all : List Kind :=
  [counter, gauge, histogram]

/-- A kind is read from its tag or from its name. -/
def ofText? (s : String) : Option Kind :=
  all.find? fun k => k.tag = s ∨ k.name = s

end Kind

/-- The help text of a metric that has none of its own. -/
def defaultHelp : String := "no help set"

structure Declaration where
  /-- The namespace: the path of the module that exposes the metric, its segments parted
  by `::`. -/
  scope : String
  /-- The name of the declaring symbol. -/
  ident : String
  kind : Kind
  /-- The exported name, where it differs from `ident`. -/
  name : Option String := none
  help : String := defaultHelp
  labels : List String := []
  /-- The bucket annotations, in the order they were given. -/
  buckets : List Bucket.Spec := []
  deriving Repr, DecidableEq

/-- Where a declaration stands, for messages. -/
def Declaration.site (d : Declaration) : String :=
  d.scope ++ "::" ++ d.ident

end MetricFacade.Metric
