import MetricFacade.Grouping
import MetricFacade.Metric.Declaration

/-!
# Gathered metrics

What a registry tells of its collectors: a family for each name, in the order of the names,
with its measurements in the order of their label values. Families without measurements
are left out.
-/
namespace MetricFacade.Registry

/-- What was measured. -/
inductive Measured where
  | number (x : Float)
  /-- How many observations there were, their sum, and how many lie at or below each bound. -/
  | distribution (count : Nat) (sum : Float) (buckets : List (Float × Nat))

structure Measurement where
  /-- Ascending by name. -/
  labels : List (String × String)
  measured : Measured

structure Family where
  name : String
  help : String
  kind : Metric.Kind
  measurements : List Measurement

/-- Lists of texts, the shorter first, and those of one length by their first difference. -/
def valuesLe (a b : List String) : Bool :=
  if a.length = b.length then lexicographicLe a b else a.length < b.length
where
  lexicographicLe : List String → List String → Bool
    | x :: xs, y :: ys => if x = y then lexicographicLe xs ys else textLe x y
    | _, _ => true

def Measurement.values (m : Measurement) : List String :=
  m.labels.map (·.2)

namespace Family

/-- Families of one name as one. The first says what kind it is. -/
def merge (name : String) (fs : List Family) : Family where
  name := name
  help := (fs.head?.map (·.help)).getD ""
  kind := (fs.head?.map (·.kind)).getD .counter
  measurements :=
    sortBy (fun a b => valuesLe a.values b.values) (fs.flatMap (·.measurements))

/-- Families as they are gathered. -/
def arrange (fs : List Family) : List Family :=
  let present := fs.filter fun f => !f.measurements.isEmpty
  (groupBy textLe (·.name) present).map fun (name, same) => merge name same

end Family

end MetricFacade.Registry
