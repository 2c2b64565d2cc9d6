/-!
# File paths as text

A path is a text of parts between slashes. What a path is called and what lies above it
is a matter of its last part alone: slashes at the end do not count, nor does a dot behind
them.
-/
namespace MetricFacade.File

/-- A reversed path without the slashes and lone dots at its end. A slash at the root stays,
and so does a dot that is the whole path. -/
def dropTail : List Char → List Char
  | ['/'] => ['/']
  | '/' :: rest => dropTail rest
  | '.' :: '/' :: rest => dropTail ('/' :: rest)
  | rest => rest
termination_by cs => cs.length

/-- A path as its last part and what stands before it, both reversed. -/
def splitLast (path : String) : List Char × List Char :=
  let cs := dropTail path.toList.reverse
  (cs.takeWhile (· ≠ '/'), cs.dropWhile (· ≠ '/'))

/-- The last part, if it names something. -/
def name? (path : String) : Option String :=
  let part := String.ofList (splitLast path).1.reverse
  if part ∈ ["", ".", ".."] then none else some part

/-- The path of the directory that the last part stands in. The root has none, and neither
has the empty path. -/
def parent? (path : String) : Option String :=
  let (part, rest) := splitLast path
  if part.isEmpty then none else some (String.ofList (dropTail rest).reverse)

/-- What stands behind the last dot of the name, unless that dot begins the name. -/
def extension? (path : String) : Option String := do
  let name ← name? path
  let cs := name.toList.reverse
  match cs.dropWhile (· ≠ '.') with
  | _ :: _ :: _ => return String.ofList (cs.takeWhile (· ≠ '.')).reverse
  | _ => none

/-- The path of `name` in the directory `base`. -/
def join (base name : String) : String :=
  if base.isEmpty ∨ base.toList.getLast? = some '/' then base ++ name else base ++ "/" ++ name

def splitParts : List Char → List (List Char)
  | [] => [[]]
  | '/' :: rest => [] :: splitParts rest
  | c :: rest =>
    match splitParts rest with
    | [] => [[c]]
    | part :: parts => (c :: part) :: parts

/-- The parts that lead somewhere: no empty ones and no lone dots. -/
def parts (path : String) : List String :=
  ((splitParts path.toList).map String.ofList).filter fun part => part ≠ "" ∧ part ≠ "."

def isAbsolute (path : String) : Bool :=
  path.toList.head? = some '/'

/-- A slash stands at the end. -/
def endsInSlash (path : String) : Bool :=
  path.toList.getLast? = some '/'

/-- The path ends in a lone dot or in two, so only a directory can be meant. -/
def endsInDots (path : String) : Bool :=
  let part := path.toList.reverse.takeWhile (· ≠ '/')
  part = ['.'] || part = ['.', '.']

end MetricFacade.File
