import MetricFacade.Failure
import MetricFacade.Log

/-!
# Loading manifests

A manifest comes from a file that was named, or from the first of the files searched for
in a directory.
-/
namespace MetricFacade.Manifest

/-- The manifest that a text holds, or a failure. -/
def ofText (format : Format) (text : String) : Except Failure Manifest :=
  match parse format text with
  | .ok m => .ok m
  | .error fault => .error ⟨.manifest fault, [.parsing format]⟩

/-- The path of the first file searched for that is in the directory. -/
def find (files : Files) (base : String) : Except Failure String :=
  match (candidates.map (File.join base)).find? files.isFile with
  | some path => .ok path
  | none => .error ⟨.noManifest base, []⟩

/-- The manifest in the file at the path. The format has to be known before the file is read. -/
def loadFile (files : Files) (path : String) : Except Failure Manifest :=
  match Format.ofPath? path with
  | none => .error ⟨.unsupportedFormat path, []⟩
  | some format =>
    match files.read path with
    | .error fault => .error (.ofFault fault (.reading path))
    | .ok text =>
      match ofText format text with
      | .ok m => .ok m
      | .error failure => .error (failure.during (.loading path))

/-- The manifest in the named file, or else in the one found in the directory `base`. -/
def load (files : Files) (base : String) (path : Option String) : Except Failure Manifest := do
  match path with
  | some path => loadFile files path
  | none => loadFile files (← find files base)

/-- What loading a manifest from a path reports. A failed one reports nothing. -/
def loadLog (path : String) : Except Failure Manifest → List Log.Record
  | .ok m =>
    [⟨.debug, .manifest,
      "Loaded " ++ toString m.metrics.length ++ " metric entries from '" ++ path ++ "'"⟩]
  | .error _ => []

end MetricFacade.Manifest
