import MetricFacade.File.Tree
import MetricFacade.Manifest.Format
import MetricFacade.Violation

/-!
# Failures

Why a command or a build came to nothing: a cause, and what was being done, from the
inside out. The text has a line for each.
-/
namespace MetricFacade

/-- What went wrong in the first place. -/
inductive Cause where
  | file (fault : File.Fault)
  | manifest (fault : Manifest.Fault)
  | unsupportedFormat (path : String)
  /-- None of the files searched for is in the directory. -/
  | noManifest (base : String)
  | badCrateName (name : String)
  /-- The file to write is there and must not be replaced. -/
  | occupied (path : String)
  | noOutputDirectory
  /-- The package manager knows no workspace, and says why. -/
  | noWorkspace (complaint : String)
  /-- The declarations of a manifest do not compile. How much of what is wrong with them is
  told depends on whether it has been told already. -/
  | invalid (path : String)
  | invalidCount (path : String) (count : Nat)
  | invalidListing (path : String) (violations : List Violation)
  deriving Repr, DecidableEq

/-- The files searched for in a directory, best one first. -/
def Manifest.candidates : List String :=
  ["facadegen.toml", "facadegen.yml", "facadegen.yaml", "facadegen.json"]

namespace Cause

def invalidText (path : String) : String :=
  "'" ++ path ++ "' contains invalid metric declarations"

def message : Cause → String
  | file fault => fault.message
  | manifest fault => fault.message
  | unsupportedFormat path =>
    "unsupported manifest format for '" ++ path
      ++ "', expected a .toml, .yml, .yaml or .json file"
  | noManifest base =>
    "no manifest found in '" ++ base ++ "', expected one of "
      ++ ", ".intercalate Manifest.candidates
  | badCrateName name => "'" ++ name ++ "' is not a valid runtime crate name"
  | occupied path => "'" ++ path ++ "' already exists, use --force to overwrite it"
  | noOutputDirectory => "environment variable not found"
  | noWorkspace complaint => complaint
  | invalid path => invalidText path
  | invalidCount path count =>
    "'" ++ path ++ "' contains " ++ toString count ++ " invalid metric declarations"
  | invalidListing path violations =>
    invalidText path ++ ": " ++ Violation.listing violations

end Cause

/-- What was being done. -/
inductive Activity where
  | parsing (format : Manifest.Format)
  | loading (path : String)
  | reading (path : String)
  | writingDefault (path : String)
  | writingCode (path : String)
  | makingDirectory (path : String)
  | writingMetrics (path : String)
  | findingOutput
  | findingWorkspace
  deriving Repr, DecidableEq

def Activity.message : Activity → String
  | parsing format => "parsing " ++ format.name ++ " manifest"
  | loading path => "could not load manifest '" ++ path ++ "'"
  | reading path => "reading manifest '" ++ path ++ "'"
  | writingDefault path => "writing default manifest to '" ++ path ++ "'"
  | writingCode path => "writing generated code to '" ++ path ++ "'"
  | makingDirectory path => "creating directory '" ++ path ++ "'"
  | writingMetrics path => "writing generated metrics to '" ++ path ++ "'"
  | findingOutput => "OUT_DIR is not set, Builder::generate must run from a build script"
  | findingWorkspace => "retrieving workspace metadata"

structure Failure where
  cause : Cause
  /-- Innermost first. -/
  activities : List Activity := []
  deriving Repr, DecidableEq

namespace Failure

def message (f : Failure) : String :=
  f.cause.message ++ String.join (f.activities.map fun a => "\n> " ++ a.message)

/-- The failure as seen from further outside. -/
def during (f : Failure) (activity : Activity) : Failure :=
  { f with activities := f.activities ++ [activity] }

/-- A fault of a file, met while doing this. -/
def ofFault (fault : File.Fault) (activity : Activity) : Failure :=
  ⟨.file fault, [activity]⟩

end Failure

end MetricFacade
