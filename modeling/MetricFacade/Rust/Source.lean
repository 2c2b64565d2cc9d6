import MetricFacade.Rust.FacadeTokens

/-!
# Nested modules and source text

The namespaces of a list of facades form a forest of modules: one for each distinct
non-empty beginning of a namespace, siblings ascending by their segment. A module holds
the facade whose namespace is its path, the last one where several share it. The source text
is a header line, then for every module at the top an empty line and one line of code.
-/
namespace MetricFacade.Rust

inductive Module where
  | mk (segment : String) (facade : Option Facade) (children : List Module)

namespace Module

def segment : Module → String
  | mk segment _ _ => segment

def facade : Module → Option Facade
  | mk _ facade _ => facade

def children : Module → List Module
  | mk _ _ children => children

end Module

/-- A facade and the segments that still lead to it. -/
structure Route where
  path : List String
  facade : Facade

namespace Route

def ofFacade (f : Facade) : Route :=
  ⟨Text.segments f.scope, f⟩

/-- The segments below the first one. -/
def descend (r : Route) : Route :=
  ⟨r.path.drop 1, r.facade⟩

end Route

/-- The modules that the routes lead through, `depth` levels at most. -/
def modulesAt : Nat → List Route → List Module
  | 0, _ => []
  | depth + 1, routes =>
    let going := routes.filter fun r => !r.path.isEmpty
    (groupBy textLe (fun r => r.path.headD "") going).map fun (segment, through) =>
      let below := through.map Route.descend
      let here := below.filter fun r => r.path.isEmpty
      Module.mk segment (here.getLast?.map (·.facade)) (modulesAt depth below)

/-- The forest of modules of a list of facades. -/
def forest (facades : List Facade) : List Module :=
  let routes := facades.map Route.ofFacade
  let depth := (routes.map fun r => r.path.length).foldl max 0
  modulesAt depth routes

mutual

def Module.tokens (rt : String) : Module → List Token
  | .mk segment facade children =>
    Token.codes ["pub", "mod", Ident.written segment]
      ++ braced (((facade.map fun f => (FacadeItems.ofFacade f).tokens rt).getD [])
        ++ modulesTokens rt children)

def modulesTokens (rt : String) : List Module → List Token
  | [] => []
  | m :: rest => m.tokens rt ++ modulesTokens rt rest

end

/-! ## Source text -/

/-- The first line of every generated file. -/
def header : String := "// @generated by facadegen. Do not edit by hand."

/-- The crate that generated code links against unless another is named. -/
def defaultCrate : String := "facadegen_runtime"

/-- A crate is named by a word other than the lone `_`. -/
def isCrateName (name : String) : Bool :=
  Check.isWord name && name != "_"

/-- A line for each module, with an empty one before it. -/
def moduleLines (rt : String) (modules : List Module) : List Char :=
  modules.flatMap fun m => '\n' :: Token.render (m.tokens rt) ++ ['\n']

/-- The source text for a list of facades that links against the crate of this name. -/
def source (crateName : String) (facades : List Facade) : String :=
  String.ofList
    (header.toList ++ '\n' :: moduleLines (Ident.written crateName) (forest facades))

end MetricFacade.Rust
