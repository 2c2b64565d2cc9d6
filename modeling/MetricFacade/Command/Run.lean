import MetricFacade.Command.Invocation
import MetricFacade.Manifest.Loading
import MetricFacade.Manifest.Starter

/-!
# Running a task

A task reads and writes a tree of files, prints, and reports. It either succeeds or fails,
and some failures also ask for the program to end with a status. A task that fails leaves
the tree as it was.
-/
namespace MetricFacade.Command

/-- What a task leaves behind. -/
structure Outcome where
  result : Except Failure Unit
  files : Files
  /-- What is printed as the result. -/
  out : String := ""
  /-- What is printed as diagnostics. -/
  err : String := ""
  /-- The status that the task asks the program to end with. -/
  status : Option Nat := none
  log : List Log.Record := []

/-! ## Colours -/

/-- A terminal control sequence. -/
def control (code : String) : String :=
  "\x1b[" ++ code ++ "m"

def red (s : String) : String :=
  control "31" ++ s ++ control "39"

def green (s : String) : String :=
  control "32" ++ s ++ control "39"

def bold (s : String) : String :=
  control "1" ++ s ++ control "0"

/-- The listing of violations as it is printed. -/
def violationReport (colored : Bool) (vs : List Violation) : String :=
  let heading := Violation.heading vs.length
  let line (v : Violation) : String :=
    "  " ++ (if colored then red "✗" else "-") ++ " " ++ v.message ++ "\n"
  (if colored then bold (red heading) else heading) ++ "\n" ++ String.join (vs.map line)

/-! ## Workspaces -/

/-- What the package manager answers when it is given the path of a Cargo manifest: the root of the
workspace that the manifest belongs to, or a complaint. -/
abbrev WorkspaceLookup := String → Except String String

/-- There is no package manager to ask. -/
def noPackageManager : WorkspaceLookup := fun _ =>
  .error "failed to start `cargo metadata`: No such file or directory (os error 2)"

/-- The root of the workspace that the Cargo manifest belongs to. -/
def workspaceRoot (lookup : WorkspaceLookup) (cargoManifest : String) : Except Failure String :=
  (lookup cargoManifest).mapError fun complaint => ⟨.noWorkspace complaint, [.findingWorkspace]⟩

/-! ## Tasks -/

/-- The path of the manifest, or why there is none. -/
def Origin.path (lookup : WorkspaceLookup) (files : Files) (o : Origin) : Except Failure String :=
  match o.manifest with
  | some path => .ok path
  | none => do Manifest.find files (← workspaceRoot lookup o.cargoManifest)

/-- The manifest with its path, and what is reported on the way. -/
def Origin.load (lookup : WorkspaceLookup) (files : Files) (o : Origin) :
    Except Failure (String × Manifest) × List Log.Record :=
  match o.path lookup files with
  | .error failure => (.error failure, [])
  | .ok path =>
    let loaded := Manifest.loadFile files path
    let log := ⟨.debug, .commands, "Using manifest '" ++ path ++ "'"⟩ :: Manifest.loadLog path loaded
    (loaded.map fun m => (path, m), log)

/-- The crate that code links against: the one asked for, or the manifest's, or the usual
one. -/
def chooseCrate (asked : Option String) (m : Manifest) : String :=
  (asked.or m.options.runtimeCrate).getD Rust.defaultCrate

/-- The policy asked for, or the manifest's. -/
def choosePolicy (asked : Option BucketPolicy) (m : Manifest) : BucketPolicy :=
  asked.getD m.options.bucketPolicy

/-- Prints the emitted text or writes it to the file asked for. -/
def deliver (files : Files) (output : Option String) (count : Nat) (text : String)
    (log : List Log.Record) : Outcome :=
  match output with
  | none => { result := .ok (), files := files, out := text, log := log }
  | some path =>
    match files.write path text with
    | .error fault =>
      { result := .error (.ofFault fault (.writingCode path)), files := files, log := log }
    | .ok files =>
      { result := .ok (), files := files, log := log,
        out := "Generated " ++ toString count ++ " facades into " ++ path ++ "\n" }

def Generate.run (lookup : WorkspaceLookup) (colored : Bool) (files : Files) (args : Generate) :
    Outcome :=
  match args.origin.load lookup files with
  | (.error failure, log) => { result := .error failure, files := files, log := log }
  | (.ok (path, m), log) =>
    let policy := choosePolicy args.policy m
    let compiled := compile policy m.declarations
    let log := log ++ compileLog policy m.declarations compiled
    match compiled with
    | .error vs =>
      { result := .error ⟨.invalid path, []⟩, files := files, log := log,
        err := violationReport colored vs, status := some 1 }
    | .ok facades =>
      match args.backend.emit (chooseCrate args.crateName m) facades with
      | .error failure => { result := .error failure, files := files, log := log }
      | .ok text => deliver files args.output facades.length text log

/-- What a manifest comes to: how many metrics, in how many namespaces. -/
def summary (path : String) (facades : List Facade) : String :=
  path ++ ": " ++ toString (facades.flatMap (·.metrics)).length ++ " metrics in "
    ++ toString facades.length ++ " namespaces"

def Validate.run (lookup : WorkspaceLookup) (colored : Bool) (files : Files) (args : Validate) :
    Outcome :=
  match args.origin.load lookup files with
  | (.error failure, log) =>
    { result := .error failure, files := files, log := log, status := some 1,
      err := "❌ Manifest validation failed: " ++ failure.message ++ "\n" }
  | (.ok (path, m), log) =>
    let policy := choosePolicy args.policy m
    let compiled := compile policy m.declarations
    let log := log ++ compileLog policy m.declarations compiled
    match compiled with
    | .error vs =>
      { result := .error ⟨.invalidCount path vs.length, []⟩, files := files, log := log,
        err := violationReport colored vs, status := some 1 }
    | .ok facades =>
      { result := .ok (), files := files, log := log,
        out := (if colored then bold (green "✔") ++ " " else "") ++ summary path facades ++ "\n" }

/-- The file that a starter manifest is written to, or why it is not known. -/
def Init.path (lookup : WorkspaceLookup) (args : Init) : Except Failure String :=
  match args.output with
  | some path => .ok path
  | none => do return File.join (← workspaceRoot lookup args.cargoManifest) Manifest.starterName

def Init.run (lookup : WorkspaceLookup) (files : Files) (args : Init) : Outcome :=
  match args.path lookup with
  | .error failure => { result := .error failure, files := files }
  | .ok path =>
    if files.holds path ∧ !args.force then
      { result := .error ⟨.occupied path, []⟩, files := files }
    else
      match files.write path Manifest.starter with
      | .error fault => { result := .error (.ofFault fault (.writingDefault path)), files := files }
      | .ok files =>
        { result := .ok (), files := files, out := "Generated default manifest: " ++ path ++ "\n" }

/-- The paths of all files that a manifest may come from. -/
def Origin.paths (lookup : WorkspaceLookup) (o : Origin) : List String :=
  match o.manifest with
  | some path => [path]
  | none =>
    match workspaceRoot lookup o.cargoManifest with
    | .ok root => Manifest.candidates.map (File.join root)
    | .error _ => []

/-- The paths of all files that a task may read or write. -/
def Task.paths (lookup : WorkspaceLookup) : Task → List String
  | .generate args => args.origin.paths lookup ++ args.output.toList
  | .validate args => args.origin.paths lookup
  | .init args => (args.path lookup).toOption.toList

/-- Runs the task. `terminal` says whether diagnostics are shown on a terminal. -/
def Invocation.run (terminal : Bool) (files : Files) (i : Invocation)
    (lookup : WorkspaceLookup := noPackageManager) : Outcome :=
  let colored := i.color.colored terminal
  match i.task with
  | .generate args => args.run lookup colored files
  | .validate args => args.run lookup colored files
  | .init args => args.run lookup files

end MetricFacade.Command
