import MetricFacade.Backend

/-!
# Building tokens with a library that refuses

The library that tokens are built with stops the program when it is asked for an identifier
that is none or for a literal of a double that is not finite. Here both backends run with
these checks: they give what they give without them, or the call that stopped them.
-/
namespace MetricFacade.Rust

open MetricFacade.Metric

/-- What the library takes. -/
structure TokenLibrary where
  identifier : String → Bool
  rawIdentifier : String → Bool
  double : Float → Bool

/-- A call that stops the program. -/
inductive Panic where
  | identifier (spelling : String)
  | rawIdentifier (spelling : String)
  | double (x : Float)
  deriving Repr, DecidableEq

namespace TokenLibrary

variable (lib : TokenLibrary)

/-- The identifier for a name, as it stands in source text. -/
def buildIdent (name : String) : Except Panic String :=
  let spelling := Ident.escaped name
  if Ident.isKeyword spelling then
    if lib.rawIdentifier spelling then .ok ("r#" ++ spelling) else .error (.rawIdentifier spelling)
  else if lib.identifier spelling then .ok spelling
  else .error (.identifier spelling)

def buildMember (name : String) : Except Panic String :=
  lib.buildIdent (Text.snakeCase name)

def buildDouble (x : Float) : Except Panic Float :=
  if lib.double x then .ok x else .error (.double x)

def buildBuckets : Bucket.Spec → Except Panic BucketCall
  | .exponential start factor count => do
    return .exponential (← lib.buildDouble start) (← lib.buildDouble factor) count
  | .linear start width count => do
    return .linear (← lib.buildDouble start) (← lib.buildDouble width) count
  | spec => do
    return .bounds (← spec.bounds.mapM lib.buildDouble)

def buildConstructor (m : Resolved) : Except Panic Constructor := do
  let field ← lib.buildMember m.field
  let buckets ← m.buckets.mapM lib.buildBuckets
  return { Constructor.ofMetric m with field, buckets }

def buildAccessor (m : Resolved) : Except Panic Accessor := do
  let name ← lib.buildMember m.accessor
  let field ← lib.buildMember m.field
  let params ← m.labels.zipIdx.mapM fun entry =>
    lib.buildIdent (Ident.param entry.1 entry.2)
  return { Accessor.ofMetric m with name, field, params }

def buildItems (f : Facade) : Except Panic FacadeItems := do
  let _ ← lib.buildIdent Facade.typeName
  let constructors ← f.metrics.mapM lib.buildConstructor
  let accessors ← f.metrics.mapM lib.buildAccessor
  return ⟨f.scope, constructors, accessors⟩

mutual

def buildModule (rt : String) : Module → Except Panic (List Token)
  | .mk segment facade children => do
    let name ← lib.buildIdent segment
    let items ← facade.mapM lib.buildItems
    let below ← buildModules rt children
    return Token.codes ["pub", "mod", name]
      ++ braced (((items.map (·.tokens rt)).getD []) ++ below)

def buildModules (rt : String) : List Module → Except Panic (List Token)
  | [] => return []
  | m :: rest => do
    return (← buildModule rt m) ++ (← buildModules rt rest)

end

/-- The source text, built with the library. -/
def buildSource (crateName : String) (facades : List Facade) : Except Panic String := do
  let rt ← lib.buildIdent crateName
  let lines ← (forest facades).mapM fun m => do
    return '\n' :: Token.render (← lib.buildModule rt m) ++ ['\n']
  return String.ofList (header.toList ++ '\n' :: lines.flatten)

def describeMetric (m : Resolved) : Except Panic Json.Value := do
  let accessor ← lib.buildMember m.accessor
  let field ← lib.buildMember m.field
  return Description.metricValue accessor field m

def describeFacade (f : NamedFacade) : Except Panic Json.Value := do
  return Description.facadeValue f (← f.metrics.mapM lib.describeMetric)

/-- The description, whose identifiers are built with the library too. -/
def buildDescription (facades : List NamedFacade) : Except Panic String := do
  return Description.print (Description.facadesValue (← facades.mapM lib.describeFacade))

/-- What the backend answers, if nothing stops it. -/
def emit : Backend → String → List Facade → Except Panic (Except Failure String)
  | .rust, crateName, fs =>
    if isCrateName crateName then Except.ok <$> lib.buildSource crateName fs
    else return .error ⟨.badCrateName crateName, []⟩
  | .json, _, fs => Except.ok <$> lib.buildDescription (fs.map Facade.named)

end TokenLibrary

end MetricFacade.Rust
