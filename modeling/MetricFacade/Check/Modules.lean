import MetricFacade.Grouping
import MetricFacade.Metric.Declaration
import MetricFacade.Rust.Ident
import MetricFacade.Violation

/-!
# Modules

The segments of namespaces become nested modules. Different segments under one parent
become different modules, and no module hides a type that generated code names without
a path.
-/
namespace MetricFacade.Check

open MetricFacade.Metric

/-- The types that generated code names without a path. -/
def reservedModules : List String :=
  ["Metrics", "Box", "str"]

/-- A module by the path of its parent and its own name. -/
structure Place where
  parent : String
  name : String
  deriving Repr, DecidableEq

/-- By parent, and under one parent by name. -/
def Place.le (a b : Place) : Bool :=
  if a.parent = b.parent then textLe a.name b.name else textLe a.parent b.parent

/-- One segment of one declaration: where its module lies, how it is spelled, who uses it. -/
structure ModuleUse where
  place : Place
  spelling : String
  site : String
  deriving Repr, DecidableEq

/-- The uses of the segments `rest` that stand behind the segments `parents`. -/
def moduleUses (site : String) : List String → List String → List ModuleUse
  | _, [] => []
  | parents, segment :: rest =>
    ⟨⟨Text.joinPath parents, Rust.Ident.escaped segment⟩, segment, site⟩
      :: moduleUses site (parents ++ [segment]) rest

def moduleUsesOf (d : Declaration) : List ModuleUse :=
  moduleUses d.site [] (Text.segments d.scope)

def places (ds : List Declaration) : List (Place × List ModuleUse) :=
  groupBy Place.le (·.place) (ds.flatMap moduleUsesOf)

/-- The sites of some uses, each once. -/
def sitesOf (uses : List ModuleUse) : List String :=
  (uses.map (·.site)).eraseDups

/-- Different segments that become one module. -/
def duplicateModules (ds : List Declaration) : List Violation :=
  (places ds).flatMap fun (place, uses) =>
    if place.name ∉ reservedModules ∧ 1 < (uses.map (·.spelling)).eraseDups.length then
      let scope := if place.parent.isEmpty then "crate" else place.parent
      [⟨.duplicateMember scope place.name, sitesOf uses⟩]
    else []

/-- One violation for each reserved name that a module has, wherever it lies. -/
def reservedModuleNames (ds : List Declaration) : List Violation :=
  let uses := (places ds).flatMap fun (place, uses) =>
    if place.name ∈ reservedModules then uses else []
  (groupBy textLe (·.place.name) uses).map fun (name, uses) =>
    ⟨.illegalIdentifier name, sitesOf uses⟩

end MetricFacade.Check
