import MetricFacade.Bucket.Fault
import MetricFacade.Metric.Declaration

/-!
# Violations

The rules that a set of declarations can break, each with what the message needs to
say, and the texts of the messages. A violation names the sites of the declarations
that take part in it.
-/
namespace MetricFacade

/-- Why the bucket annotations of a metric cannot be applied. -/
inductive BucketConflict where
  | notAHistogram (kind : Metric.Kind)
  | multipleKinds (kinds : List Bucket.Kind)
  deriving Repr, DecidableEq

namespace BucketConflict

def message : BucketConflict → String
  | notAHistogram kind => "it is a " ++ kind.name ++ ", and only histograms have buckets"
  | multipleKinds kinds =>
    "it carries " ++ toString kinds.length ++ " bucket annotations ("
      ++ ", ".intercalate (kinds.map (·.name)) ++ "), but at most one is allowed"

end BucketConflict

/-- A broken rule. -/
inductive Breach where
  | illegalName (name : String)
  | duplicateName (name : String) (count : Nat)
  | inconsistentBuckets (metric : String) (conflict : BucketConflict)
  | invalidBuckets (metric : String) (fault : Bucket.Fault)
  | illegalLabel (metric label : String)
  | duplicateLabel (metric label : String)
  | illegalIdentifier (identifier : String)
  | duplicateMember (scope member : String)
  deriving Repr, DecidableEq

namespace Breach

def message : Breach → String
  | illegalName name =>
    if name.isEmpty then "metric name is empty"
    else "metric name '" ++ name
      ++ "' contains illegal characters, only ASCII letters, digits and '_' are allowed"
  | duplicateName name count =>
    "metric name '" ++ name ++ "' is declared " ++ toString count
      ++ " times, names must be unique across all namespaces"
  | inconsistentBuckets metric conflict =>
    "bucket annotations on metric '" ++ metric ++ "' cannot be applied: " ++ conflict.message
  | invalidBuckets metric fault =>
    "metric '" ++ metric ++ "' has invalid buckets: " ++ fault.message
  | illegalLabel metric label =>
    "metric '" ++ metric ++ "' has illegal label '" ++ label
      ++ "', labels must match [A-Za-z_][A-Za-z0-9_]* and must not start with '__'"
  | duplicateLabel metric label =>
    "metric '" ++ metric ++ "' declares label '" ++ label ++ "' more than once"
  | illegalIdentifier identifier =>
    "'" ++ identifier ++ "' cannot be used as an identifier in generated code"
  | duplicateMember scope member =>
    "namespace '" ++ scope ++ "' would define member '" ++ member ++ "' more than once"

end Breach

structure Violation where
  breach : Breach
  sites : List String
  deriving Repr, DecidableEq

namespace Violation

def message (v : Violation) : String :=
  if v.sites.isEmpty then v.breach.message
  else v.breach.message ++ " [" ++ ", ".intercalate v.sites ++ "]"

/-- The first line of a listing of `n` violations. -/
def heading (n : Nat) : String :=
  "found " ++ toString n ++ " invalid metric declaration" ++ (if n = 1 then "" else "s")

/-- A listing: the heading, then a line for each violation. -/
def listing (vs : List Violation) : String :=
  heading vs.length ++ String.join (vs.map fun v => "\n  - " ++ v.message)

end Violation

end MetricFacade
