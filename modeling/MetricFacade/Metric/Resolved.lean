import MetricFacade.Metric.Declaration
import MetricFacade.Text.CharClass

/-!
# Resolved metrics

What a declaration comes to once its gaps are filled: a canonical name and canonical
labels, a help text that says something, and for a histogram the one bucket
specification that applies.
-/
namespace MetricFacade.Metric

/-- Blanks removed at both ends, and every space in between written `_`. Other blanks in
between stay. -/
def canonicalize (s : String) : String :=
  String.ofList ((Text.trim s.toList).map fun c => if c = ' ' then '_' else c)

structure Resolved where
  name : String
  /-- In declared order, which is the order of the accessor's parameters. -/
  labels : List String
  kind : Kind
  help : String
  /-- Present exactly for histograms. -/
  buckets : Option Bucket.Spec
  /-- The source identifier that the accessor is named after. -/
  accessor : String
  /-- The source identifier that the field is named after: the accessor's with the kind
  behind it, so that one identifier can serve several kinds. -/
  field : String
  scope : String
  site : String
  deriving Repr, DecidableEq

namespace Declaration

/-- A name that was given and is not empty is canonicalized; otherwise the identifier serves
as it is. -/
def resolvedName (d : Declaration) : String :=
  match d.name with
  | some name => if name.isEmpty then d.ident else canonicalize name
  | none => d.ident

/-- The first specification of the least rank. -/
def leastRanked : List Bucket.Spec → Option Bucket.Spec
  | [] => none
  | spec :: rest =>
    match leastRanked rest with
    | none => some spec
    | some best => if spec.kind.rank ≤ best.kind.rank then some spec else some best

/-- The annotations that ask for something else than the standard ladder. -/
def ownBuckets (d : Declaration) : List Bucket.Spec :=
  d.buckets.filter fun spec => spec.kind ≠ .standard

/-- A histogram takes its annotation of highest precedence, or else the standard ladder;
no other kind has buckets. -/
def resolvedBuckets (d : Declaration) : Option Bucket.Spec :=
  if d.kind = .histogram then some ((leastRanked d.ownBuckets).getD .standard) else none

def resolvedLabels (d : Declaration) : List String :=
  d.labels.map canonicalize

def resolve (d : Declaration) : Resolved where
  name := d.resolvedName
  labels := d.resolvedLabels
  kind := d.kind
  help := if Text.isAllBlank d.help then defaultHelp else d.help
  buckets := d.resolvedBuckets
  accessor := d.ident
  field := d.ident ++ d.kind.name
  scope := d.scope
  site := d.site

end Declaration

end MetricFacade.Metric
