import MetricFacade.Description
import MetricFacade.Failure
import MetricFacade.Rust.Source

/-!
# Backends

What a list of facades is written as: source text or a description. Only source text names
a crate, so only there can the name be wrong.

Here a name is written as it comes. The library that identifiers are built with refuses some names;
`Rust.TokenLibrary.emit` is stopped by these, and otherwise gives the same.
-/
namespace MetricFacade

inductive Backend where
  | rust
  | json
  deriving Repr, DecidableEq

namespace Backend

def name : Backend → String
  | rust => "rust"
  | json => "json"

def ofText? (s : String) : Option Backend :=
  [rust, json].find? fun b => b.name = s

/-- Source text that links against the crate of this name. -/
def emitRust (crateName : String) (fs : List Facade) : Except Failure String :=
  if Rust.isCrateName crateName then .ok (Rust.source crateName fs)
  else .error ⟨.badCrateName crateName, []⟩

def emit : Backend → String → List Facade → Except Failure String
  | rust, crateName, fs => emitRust crateName fs
  | json, _, fs => .ok (Description.source (fs.map Facade.named))

end Backend

end MetricFacade
