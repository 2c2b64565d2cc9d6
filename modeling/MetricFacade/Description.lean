import MetricFacade.Catalog
import MetricFacade.Json.Writer
import MetricFacade.Rust.Ident

/-!
# The description of a list of facades

A machine-readable account of the facades that generated code exposes: indented JSON, keys
in alphabetical order, with the identifiers as they stand in source text and every bucket
ladder written out.
-/
namespace MetricFacade.Description

open Json MetricFacade.Metric

/-- The parameters of a formulaic ladder, keys ascending; null for any other. -/
def params : Bucket.Spec → Value
  | .exponential start factor count =>
    .object [("count", .nat count), ("factor", .double factor), ("start", .double start)]
  | .linear start width count =>
    .object [("count", .nat count), ("start", .double start), ("width", .double width)]
  | .explicit _ | .standard => .null

def ofBuckets (spec : Bucket.Spec) : Value :=
  .object [("bounds", .doubles spec.bounds), ("kind", .text spec.kind.name),
    ("params", params spec)]

/-- What is written for a metric whose identifiers stand in source text like this. -/
def metricValue (accessor field : String) (m : Resolved) : Value :=
  .object [
    ("accessor", .text accessor),
    ("buckets", .ofOption ofBuckets m.buckets),
    ("field", .text field),
    ("help", .text m.help),
    ("labels", .texts m.labels),
    ("name", .text m.name),
    ("type", .text m.kind.tag)]

/-- What is written for a facade, given what is written for its metrics. -/
def facadeValue (f : NamedFacade) (metrics : List Value) : Value :=
  .object [
    ("metrics", .list metrics),
    ("namespace", .text f.scope),
    ("type_name", .text f.typeName)]

/-- What is written for facades, given what is written for each. -/
def facadesValue (facades : List Value) : Value :=
  .object [("facades", .list facades)]

/-- A value as text, a line break at its end. -/
def print (v : Value) : String :=
  String.ofList (v.indented 0 ++ ['\n'])

def ofMetric (m : Resolved) : Value :=
  metricValue (Rust.Ident.writtenMember m.accessor) (Rust.Ident.writtenMember m.field) m

def ofFacade (f : NamedFacade) : Value :=
  facadeValue f (f.metrics.map ofMetric)

def ofFacades (fs : List NamedFacade) : Value :=
  facadesValue (fs.map ofFacade)

/-- The description as text. -/
def source (fs : List NamedFacade) : String :=
  print (ofFacades fs)

end MetricFacade.Description
