import MetricFacade.Check.Buckets
import MetricFacade.Json.Writer

/-!
# Manifests

A manifest lists metrics and says how to compile them. An entry carries at most one bucket
annotation of each kind; as declarations they stand in order of precedence. `Manifest.toJson`
writes a manifest down, absent fields left out.
-/
namespace MetricFacade

namespace Manifest

/-- The namespace of an entry that names none. -/
def defaultScope : String := "metrics"

structure Options where
  bucketPolicy : BucketPolicy := .strict
  /-- The crate that generated code links against; the emitter chooses if it is absent. -/
  runtimeCrate : Option String := none
  deriving Repr, DecidableEq

structure ExponentialBuckets where
  start : Float
  factor : Float
  count : Nat
  deriving Repr, DecidableEq

structure LinearBuckets where
  start : Float
  width : Float
  count : Nat
  deriving Repr, DecidableEq

structure Entry where
  scope : String := defaultScope
  ident : String
  kind : Metric.Kind
  name : Option String := none
  help : Option String := none
  labels : List String := []
  buckets : Option (List Float) := none
  exponential : Option ExponentialBuckets := none
  linear : Option LinearBuckets := none
  deriving Repr, DecidableEq

namespace Entry

/-- The bucket annotations, in order of precedence. -/
def specs (e : Entry) : List Bucket.Spec :=
  (e.buckets.map Bucket.Spec.explicit).toList
    ++ (e.exponential.map fun b => Bucket.Spec.exponential b.start b.factor b.count).toList
    ++ (e.linear.map fun b => Bucket.Spec.linear b.start b.width b.count).toList

def declaration (e : Entry) : Metric.Declaration where
  scope := e.scope
  ident := e.ident
  kind := e.kind
  name := e.name
  help := e.help.getD Metric.defaultHelp
  labels := e.labels
  buckets := e.specs

end Entry

end Manifest

structure Manifest where
  options : Manifest.Options := {}
  metrics : List Manifest.Entry := []
  deriving Repr, DecidableEq

namespace Manifest

/-- The declarations, in the order of the entries. -/
def declarations (m : Manifest) : List Metric.Declaration :=
  m.metrics.map (·.declaration)

open Json (Value)

def optional (key : String) : Option Value → List (String × Value)
  | none => []
  | some v => [(key, v)]

def Options.toJson (o : Options) : Value :=
  .object (("bucket_policy", .text o.bucketPolicy.name)
    :: optional "runtime_crate" (o.runtimeCrate.map .text))

def ExponentialBuckets.toJson (b : ExponentialBuckets) : Value :=
  .object [("start", .double b.start), ("factor", .double b.factor), ("count", .nat b.count)]

def LinearBuckets.toJson (b : LinearBuckets) : Value :=
  .object [("start", .double b.start), ("width", .double b.width), ("count", .nat b.count)]

def Entry.toJson (e : Entry) : Value :=
  .object ([("namespace", .text e.scope), ("ident", .text e.ident), ("type", .text e.kind.tag)]
    ++ optional "name" (e.name.map .text)
    ++ optional "help" (e.help.map .text)
    ++ optional "labels" (if e.labels.isEmpty then none else some (.texts e.labels))
    ++ optional "buckets" (e.buckets.map .doubles)
    ++ optional "exponential_buckets" (e.exponential.map (·.toJson))
    ++ optional "linear_buckets" (e.linear.map (·.toJson)))

def toJson (m : Manifest) : Value :=
  .object [("options", m.options.toJson), ("metric", .list (m.metrics.map (·.toJson)))]

/-- The manifest as compact JSON. -/
def serialize (m : Manifest) : String :=
  String.ofList m.toJson.compact

end Manifest

end MetricFacade
