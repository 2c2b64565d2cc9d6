import MetricFacade.Check.Buckets
import MetricFacade.Check.Names
import MetricFacade.Check.Members
import MetricFacade.Check.Modules
import MetricFacade.Log

/-!
# The catalog of facades

A set of declarations is checked as a whole and every violation is collected. A set
without any becomes one facade for each namespace, namespaces ascending, the metrics of a
namespace in the order of their declarations.
-/
namespace MetricFacade

open MetricFacade.Metric

/-- The metrics of one namespace, which one generated type exposes. -/
structure Facade where
  scope : String
  metrics : List Resolved
  deriving Repr, DecidableEq

/-- The name of the generated type, the same in every namespace. -/
def Facade.typeName : String := "Metrics"

/-- A facade made by hand may call its type otherwise. -/
structure NamedFacade extends Facade where
  typeName : String := Facade.typeName
  deriving Repr, DecidableEq

/-- The facade under the name that its type has by itself. -/
def Facade.named (f : Facade) : NamedFacade :=
  { f with }

/-- All violations of a set of declarations, check by check. -/
def violations (policy : BucketPolicy) (ds : List Declaration) : List Violation :=
  Check.illegalNames ds ++ Check.duplicateNames ds ++ Check.illegalLabels ds
    ++ Check.illegalIdentifiers ds ++ Check.duplicateMembers ds
    ++ Check.duplicateModules ds ++ Check.reservedModuleNames ds
    ++ Check.illegalBuckets policy ds

/-- One facade for each namespace. -/
def facades (ds : List Declaration) : List Facade :=
  (groupBy textLe (·.scope) (ds.map (·.resolve))).map fun (scope, metrics) => ⟨scope, metrics⟩

/-- The facades of a set of declarations, or everything that is wrong with it. -/
def compile (policy : BucketPolicy) (ds : List Declaration) :
    Except (List Violation) (List Facade) :=
  match violations policy ds with
  | [] => .ok (facades ds)
  | vs => .error vs

/-- What compiling reports on the way to its result. -/
def compileLog (policy : BucketPolicy) (ds : List Declaration)
    (result : Except (List Violation) (List Facade)) : List Log.Record :=
  let count := toString ds.length
  let start : Log.Record := ⟨.debug, .compiler, "Resolving " ++ count ++ " metric declarations"⟩
  let warnings := (Check.bucketWarnings policy ds).map fun m => (⟨.warn, .validator, m⟩ : Log.Record)
  let finish : Log.Record := match result with
    | .ok fs =>
      ⟨.info, .compiler,
        "Compiled " ++ count ++ " metrics into " ++ toString fs.length ++ " facades"⟩
    | .error vs =>
      ⟨.debug, .validator,
        "Found " ++ toString vs.length ++ " violations in " ++ count ++ " declarations"⟩
  start :: warnings ++ [finish]

end MetricFacade
