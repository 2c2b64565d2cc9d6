import MetricFacade.Command.Run

/-!
# Generating code while a package is built

A build script generates the facades of one manifest into one file and tells Cargo, a line
for each thing it says, which file to watch and what is wrong with the declarations.
-/
namespace MetricFacade

structure Build where
  manifest : String
  /-- The file to write, instead of one in the output directory of the package. -/
  output : Option String := none
  /-- Stands before the crate that the manifest names. -/
  crateName : Option String := none
  /-- Stands before the policy of the manifest. -/
  policy : Option BucketPolicy := none
  deriving Repr, DecidableEq

namespace Build

/-- What a build leaves behind. -/
structure Outcome where
  /-- The path of the file written. -/
  result : Except Failure String
  files : Files
  /-- What is printed for Cargo. -/
  directives : List String
  log : List Log.Record := []

/-- The name of the file in the output directory. -/
def defaultName : String := "metrics.rs"

def watch (path : String) : String :=
  "cargo:rerun-if-changed=" ++ path

def warning (v : Violation) : String :=
  "cargo:warning=" ++ v.message

/-- The directives as they are printed. -/
def Outcome.printed (o : Outcome) : String :=
  String.join (o.directives.map fun d => d ++ "\n")

/-- The path of the file to write. `outDir` is the output directory of the package, if there
is one. -/
def outputPath (outDir : Option String) (b : Build) : Except Failure String :=
  match b.output, outDir with
  | some path, _ => .ok path
  | none, some dir => .ok (File.join dir defaultName)
  | none, none => .error ⟨.noOutputDirectory, [.findingOutput]⟩

/-- The tree with the text in the file, and with every directory above it. -/
def place (files : Files) (path text : String) : Files × Except Failure Unit :=
  let parent := (File.parent? path).getD ""
  let (files, made) :=
    if parent.isEmpty then (files, .ok ()) else files.makeDirectories parent
  match made with
  | .error fault => (files, .error (.ofFault fault (.makingDirectory parent)))
  | .ok () =>
    match files.write path text with
    | .error fault => (files, .error (.ofFault fault (.writingMetrics path)))
    | .ok files => (files, .ok ())

/-- The text to write, the number of facades in it, and where to write it. -/
structure Product where
  text : String
  count : Nat
  path : String

/-- What a compiled manifest comes to. -/
def product (outDir : Option String) (b : Build) (m : Manifest) (facades : List Facade) :
    Except Failure Product := do
  let text ← Backend.emitRust (Command.chooseCrate b.crateName m) facades
  return ⟨text, facades.length, ← b.outputPath outDir⟩

def run (outDir : Option String) (files : Files) (b : Build) : Outcome :=
  let loaded := Manifest.loadFile files b.manifest
  let log := Manifest.loadLog b.manifest loaded
  match loaded with
  | .error failure => ⟨.error failure, files, [watch b.manifest], log⟩
  | .ok m =>
    let policy := Command.choosePolicy b.policy m
    let compiled := compile policy m.declarations
    let log := log ++ compileLog policy m.declarations compiled
    match compiled with
    | .error vs =>
      ⟨.error ⟨.invalidListing b.manifest vs, []⟩, files, watch b.manifest :: vs.map warning, log⟩
    | .ok facades =>
      match b.product outDir m facades with
      | .error failure => ⟨.error failure, files, [watch b.manifest], log⟩
      | .ok p =>
        match place files p.path p.text with
        | (files, .error failure) => ⟨.error failure, files, [watch b.manifest], log⟩
        | (files, .ok ()) =>
          let done := "Generated " ++ toString p.count ++ " facades into '" ++ p.path ++ "'"
          ⟨.ok p.path, files, [watch b.manifest], log ++ [⟨.info, .builder, done⟩]⟩

end Build

end MetricFacade
