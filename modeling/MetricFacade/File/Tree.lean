import MetricFacade.File.Path

/-!
# A tree of files

What a program finds on disk and leaves there, as a value: directories, files that hold
text, and files that hold something else. The current directory is the root of the tree.
Reading and writing fail as they do on disk; a failed write changes nothing.
-/
namespace MetricFacade

namespace File

/-- What may stand at a place in a tree. -/
inductive Entry where
  | directory
  | text (content : String)
  /-- A file whose bytes are not text. -/
  | binary
  deriving Repr, DecidableEq

/-- Why a file cannot be read or written. -/
inductive Fault where
  | notFound
  | occupied
  | notDirectory
  | isDirectory
  | notText
  deriving Repr, DecidableEq

def Fault.message : Fault → String
  | notFound => "No such file or directory (os error 2)"
  | occupied => "File exists (os error 17)"
  | notDirectory => "Not a directory (os error 20)"
  | isDirectory => "Is a directory (os error 21)"
  | notText => "stream did not contain valid UTF-8"

/-- A place: the names on the way from the current directory. The way may begin with steps up,
or at the root of the file system. -/
abbrev Place := List String

/-- The name that the root of the file system has in a place. -/
def rootName : String := "/"

/-- The current directory, what lies above it, and the root of the file system are directories
whatever the tree holds. -/
def isOutermost (place : Place) : Bool :=
  place = [rootName] || place.all (· = "..")

/-- One part of a path further from a place. -/
def step (place : Place) (part : String) : Place :=
  if part ≠ ".." then place ++ [part]
  else if place = [rootName] then place
  else if isOutermost place then place ++ [".."]
  else place.dropLast

/-- The places on the way along the parts, the last one included. -/
def waypoints : Place → List String → List Place
  | place, [] => [place]
  | place, part :: rest => place :: waypoints (step place part) rest

/-- Where a path begins. -/
def origin (path : String) : Place :=
  if isAbsolute path then [rootName] else []

/-- A path that leads to the place. -/
def pathOf : Place → String
  | [] => "."
  | first :: rest =>
    if first = rootName then rootName ++ "/".intercalate rest
    else "/".intercalate (first :: rest)

end File

open File

/-- Every file and directory of a tree, each place once. -/
structure Files where
  entries : List (Place × Entry) := []
  deriving Repr, DecidableEq

namespace Files

def get? (fs : Files) (place : Place) : Option Entry :=
  if isOutermost place then some .directory
  else (fs.entries.find? fun e => e.1 = place).map (·.2)

/-- The tree with this entry at the place, whatever stood there. -/
def put (fs : Files) (place : Place) (entry : Entry) : Files :=
  if fs.entries.any fun e => e.1 = place then
    ⟨fs.entries.map fun e => if e.1 = place then (place, entry) else e⟩
  else ⟨fs.entries ++ [(place, entry)]⟩

/-- The place that the parts lead to. Every part stands in a directory. -/
def walk (fs : Files) : Place → List String → Except Fault Place
  | place, [] => .ok place
  | place, part :: rest =>
    match fs.get? place with
    | some .directory => fs.walk (step place part) rest
    | some _ => .error .notDirectory
    | none => .error .notFound

/-- The place that a path leads to, whether or not there is anything. -/
def locate (fs : Files) (path : String) : Except Fault Place :=
  if path.isEmpty then .error .notFound
  else fs.walk (origin path) (parts path)

/-- What a path leads to. -/
def find (fs : Files) (path : String) : Except Fault Entry := do
  match fs.get? (← fs.locate path) with
  | none => .error .notFound
  | some .directory => .ok .directory
  | some entry => if endsInSlash path ∨ endsInDots path then .error .notDirectory else .ok entry

/-- There is something at the path. -/
def holds (fs : Files) (path : String) : Bool :=
  match fs.find path with
  | .ok _ => true
  | .error _ => false

def isDirectory (fs : Files) (path : String) : Bool :=
  match fs.find path with
  | .ok .directory => true
  | _ => false

def isFile (fs : Files) (path : String) : Bool :=
  match fs.find path with
  | .ok .directory => false
  | .ok _ => true
  | .error _ => false

/-- The text of a file. -/
def read (fs : Files) (path : String) : Except Fault String := do
  match ← fs.find path with
  | .text content => .ok content
  | .directory => .error .isDirectory
  | .binary => .error .notText

/-- The tree once the file holds the text. The directory it stands in has to be there. -/
def write (fs : Files) (path : String) (content : String) : Except Fault Files := do
  let place ← fs.locate path
  if endsInDots path then
    let _ ← fs.find path
    .error .isDirectory
  else if endsInSlash path ∨ fs.get? place = some .directory then .error .isDirectory
  else .ok (fs.put place (.text content))

/-- The tree with one more directory. -/
def makeDirectory (fs : Files) (path : String) : Except Fault Files := do
  let place ← fs.locate path
  if (fs.get? place).isSome then .error .occupied else .ok (fs.put place .directory)

/-- The directory at the path, there already or made now, and the tree it leaves. -/
def enterDirectory (fs : Files) (path : String) : Files × Except Fault Unit :=
  match fs.makeDirectory path with
  | .ok fs => (fs, .ok ())
  | .error fault => (fs, if fs.isDirectory path then .ok () else .error fault)

/-- As `enterDirectory`, with every directory above it that is missing, `depth` of them at
most. -/
def enterDirectories : Nat → Files → String → Files × Except Fault Unit
  | 0, fs, _ => (fs, .error .notFound)
  | depth + 1, fs, path =>
    if path.isEmpty then (fs, .ok ())
    else
      match fs.makeDirectory path with
      | .ok fs => (fs, .ok ())
      | .error .notFound =>
        match parent? path with
        | none => (fs, .error .notFound)
        | some parent =>
          match enterDirectories depth fs parent with
          | (fs, .ok ()) => fs.enterDirectory path
          | (fs, .error fault) => (fs, .error fault)
      | .error fault => (fs, if fs.isDirectory path then .ok () else .error fault)

/-- The directory at the path with all that are missing above it. Those made before a fault
stay. -/
def makeDirectories (fs : Files) (path : String) : Files × Except Fault Unit :=
  enterDirectories (path.length + 1) fs path

end Files

end MetricFacade
