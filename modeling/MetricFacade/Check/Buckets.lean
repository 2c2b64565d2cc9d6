import MetricFacade.Metric.Resolved
import MetricFacade.Grouping
import MetricFacade.Violation

/-!
# Bucket annotations

Only histograms have buckets, and a histogram has one annotation at most. The policy
says what becomes of a metric that breaks this: the strict one reports it, the lenient
one warns and goes on with what the metric resolves to. What a histogram resolves to must
be a specification without fault under either policy.
-/
namespace MetricFacade

/-- What becomes of bucket annotations that cannot all be applied. -/
inductive BucketPolicy where
  | strict
  | lenient
  deriving Repr, DecidableEq

namespace BucketPolicy

def name : BucketPolicy → String
  | strict => "strict"
  | lenient => "lenient"

def ofText? (s : String) : Option BucketPolicy :=
  [strict, lenient].find? fun p => p.name = s

end BucketPolicy

namespace Check

open MetricFacade.Metric

/-- The kinds of the annotations, by precedence. -/
def annotationKinds (d : Declaration) : List Bucket.Kind :=
  sortBy Bucket.Kind.le (d.ownBuckets.map (·.kind))

def bucketConflict? (d : Declaration) : Option BucketConflict :=
  let kinds := annotationKinds d
  if d.kind = .histogram then
    if 1 < kinds.length then some (.multipleKinds kinds) else none
  else if kinds.isEmpty then none
  else some (.notAHistogram d.kind)

/-- The fault of the specification that the metric resolves to. -/
def bucketFault? (d : Declaration) : Option Bucket.Fault :=
  d.resolvedBuckets.bind Bucket.Spec.fault?

def bucketBreach? (policy : BucketPolicy) (d : Declaration) : Option Breach :=
  match policy, bucketConflict? d with
  | .strict, some conflict => some (.inconsistentBuckets d.resolvedName conflict)
  | _, _ => (bucketFault? d).map (.invalidBuckets d.resolvedName)

def illegalBuckets (policy : BucketPolicy) (ds : List Declaration) : List Violation :=
  ds.flatMap fun d => ((bucketBreach? policy d).map fun breach => ⟨breach, [d.site]⟩).toList

/-- What the lenient policy says of a conflict. -/
def conflictWarning (d : Declaration) : BucketConflict → String
  | .notAHistogram kind =>
    "Ignoring bucket annotations on " ++ kind.name ++ " '" ++ d.resolvedName
      ++ "' declared at " ++ d.site
  | .multipleKinds kinds =>
    "Histogram '" ++ d.resolvedName ++ "' declared at " ++ d.site
      ++ " has several bucket annotations, applying "
      ++ ((kinds.head?.map (·.name)).getD "")

/-- The warnings of a check, in the order of the declarations. -/
def bucketWarnings (policy : BucketPolicy) (ds : List Declaration) : List String :=
  match policy with
  | .strict => []
  | .lenient => ds.flatMap fun d => ((bucketConflict? d).map (conflictWarning d)).toList

end Check

end MetricFacade
