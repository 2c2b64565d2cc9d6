import MetricFacade.Backend
import MetricFacade.Log

/-!
# Invocations

What the program can be asked to do: generate code from a manifest, validate a manifest, or
write a starter manifest.
-/
namespace MetricFacade.Command

/-- When output is coloured. -/
inductive ColorMode where
  | always
  | never
  /-- If a terminal shows it. -/
  | auto
  deriving Repr, DecidableEq

namespace ColorMode

def ofText? : String → Option ColorMode
  | "always" => some always
  | "never" => some never
  | "auto" => some auto
  | _ => none

def colored (terminal : Bool) : ColorMode → Bool
  | always => true
  | never => false
  | auto => terminal

end ColorMode

/-- Which log records are shown: none, or those up to a level. -/
abbrev LogLevel := Option Log.Level

def logLevelOfText? : String → Option LogLevel
  | "none" => some none
  | "error" => some (some .error)
  | "warn" => some (some .warn)
  | "info" => some (some .info)
  | "debug" => some (some .debug)
  | "trace" => some (some .trace)
  | _ => none

/-- Where the manifest is: in a named file, or in the root of the workspace that a Cargo manifest
belongs to. -/
structure Origin where
  manifest : Option String := none
  cargoManifest : String := "Cargo.toml"
  deriving Repr, DecidableEq

structure Generate where
  origin : Origin := {}
  backend : Backend := .rust
  /-- The file to write; absent for standard output. -/
  output : Option String := none
  /-- Stands before the crate that the manifest names. -/
  crateName : Option String := none
  /-- Stands before the policy of the manifest. -/
  policy : Option BucketPolicy := none
  deriving Repr, DecidableEq

structure Validate where
  origin : Origin := {}
  policy : Option BucketPolicy := none
  deriving Repr, DecidableEq

structure Init where
  /-- The file to write, instead of the usual one in the root of the workspace. -/
  output : Option String := none
  cargoManifest : String := "Cargo.toml"
  /-- Replace a file that is there. -/
  force : Bool := false
  deriving Repr, DecidableEq

inductive Task where
  | generate (args : Generate)
  | validate (args : Validate)
  | init (args : Init)
  deriving Repr, DecidableEq

structure Invocation where
  task : Task
  color : ColorMode := .auto
  logLevel : LogLevel := none
  deriving Repr, DecidableEq

end MetricFacade.Command
