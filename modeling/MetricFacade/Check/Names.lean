import MetricFacade.Check.Spelling
import MetricFacade.Grouping
import MetricFacade.Metric.Resolved
import MetricFacade.Rust.Ident
import MetricFacade.Violation

/-!
# Names, labels and identifiers

A resolved name is well spelled, and no two declarations share one, whatever their
namespaces: all metrics meet in one registry.

Every label of a metric is well spelled and stands there once, and the labels give
different accessor parameters. The labels are looked at in order. A repeated label is
reported at its second place only; a parameter is reported wherever it meets a label other
than the one that claimed it first.

Source identifiers and the segments of namespaces become identifiers of generated code.
Each ill-spelled one is reported once, with the sites that use it.
-/
namespace MetricFacade.Check

open MetricFacade.Metric

/-! ## Names -/

def illegalName (d : Declaration) : List Violation :=
  if isName d.resolvedName then [] else [⟨.illegalName d.resolvedName, [d.site]⟩]

def illegalNames (ds : List Declaration) : List Violation :=
  ds.flatMap illegalName

/-- One violation for each name with several declarations, names ascending. -/
def duplicateNames (ds : List Declaration) : List Violation :=
  (groupBy textLe (·.resolvedName) ds).flatMap fun (name, users) =>
    if 1 < users.length then
      [⟨.duplicateName name users.length, users.map (·.site)⟩]
    else []

/-! ## Labels -/

/-- The label that an earlier place claimed the parameter for. -/
def claimant? (param : String) (earlier : List String) : Option String :=
  (earlier.zipIdx.find? fun (label, i) => Rust.Ident.param label i = param).map (·.1)

/-- What the label at one place breaks, given the labels before it. -/
def labelBreaches (metric : String) (earlier : List String) (label : String) : List Breach :=
  let param := Rust.Ident.param label earlier.length
  let spelling := if isLabel label then [] else [Breach.illegalLabel metric label]
  let repeated := if earlier.count label = 1 then [Breach.duplicateLabel metric label] else []
  let clash := match claimant? param earlier with
    | some first => if first = label then [] else [Breach.duplicateLabel metric param]
    | none => []
  spelling ++ repeated ++ clash

/-- What the labels `rest` break behind the labels `earlier`. -/
def labelsBreaches (metric : String) : List String → List String → List Breach
  | _, [] => []
  | earlier, label :: rest =>
    labelBreaches metric earlier label ++ labelsBreaches metric (earlier ++ [label]) rest

def illegalLabelsOf (d : Declaration) : List Violation :=
  (labelsBreaches d.resolvedName [] d.resolvedLabels).map fun breach => ⟨breach, [d.site]⟩

def illegalLabels (ds : List Declaration) : List Violation :=
  ds.flatMap illegalLabelsOf

/-! ## Identifiers -/

/-- A spelling and the site that uses it. -/
structure Use where
  spelling : String
  site : String
  deriving Repr, DecidableEq

/-- The identifiers of a declaration, the segments of its namespace first. -/
def usesOf (d : Declaration) : List Use :=
  (Text.segments d.scope ++ [d.ident]).map fun spelling => ⟨spelling, d.site⟩

/-- Of equal neighbours only the first. -/
def dropRepeats : List String → List String
  | a :: b :: rest => if a = b then dropRepeats (b :: rest) else a :: dropRepeats (b :: rest)
  | sites => sites

def illegalIdentifiers (ds : List Declaration) : List Violation :=
  (groupBy textLe (·.spelling) (ds.flatMap usesOf)).flatMap fun (spelling, uses) =>
    if isIdentifier spelling then []
    else [⟨.illegalIdentifier spelling, dropRepeats (uses.map (·.site))⟩]

end MetricFacade.Check
