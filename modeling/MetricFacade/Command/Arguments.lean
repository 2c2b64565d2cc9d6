import MetricFacade.Command.Invocation

/-!
# Command-line arguments

Arguments are read from left to right. An option that takes a value takes it from behind an
equals sign or from the next argument, which must not look like an option; a short one also
from the rest of its own argument. Nothing may be given twice. The two options that every
task has may stand before the task or behind it, and count where they come last.
-/
namespace MetricFacade.Command

/-- Why arguments are refused. -/
inductive Refusal where
  | unexpected (argument : String)
  | missingValue (option : String)
  | unwantedValue (option : String)
  | badValue (option value : String)
  | repeated (option : String)
  | noTask
  deriving Repr, DecidableEq

def Refusal.message : Refusal → String
  | unexpected argument => "error: unexpected argument '" ++ argument ++ "' found"
  | missingValue option => "error: a value is required for '--" ++ option ++ "'"
  | unwantedValue option => "error: no value is accepted for '--" ++ option ++ "'"
  | badValue option value => "error: invalid value '" ++ value ++ "' for '--" ++ option ++ "'"
  | repeated option => "error: the argument '--" ++ option ++ "' cannot be used multiple times"
  | noTask => "error: a subcommand is required: generate, validate or init"

/-- Why reading arguments ends early. -/
inductive Stop where
  | refused (why : Refusal)
  | usage
  | version
  deriving Repr, DecidableEq

/-- What an option asks for. -/
inductive Effect where
  | value (accepts : String → Bool)
  | mark
  | usage
  | version

structure Flag where
  name : String
  short : Option Char := none
  effect : Effect

namespace Flag

def text (name : String) : Flag := ⟨name, none, .value fun _ => true⟩

def color : Flag := ⟨"color", none, .value fun s => (ColorMode.ofText? s).isSome⟩

def logLevel : Flag := ⟨"log-level", none, .value fun s => (logLevelOfText? s).isSome⟩

def help : Flag := ⟨"help", some 'h', .usage⟩

def version : Flag := ⟨"version", some 'V', .version⟩

def manifest : Flag := ⟨"manifest", some 'm', .value fun _ => true⟩

def output : Flag := ⟨"output", some 'o', .value fun _ => true⟩

def format : Flag := ⟨"format", none, .value fun s => (Backend.ofText? s).isSome⟩

def policy : Flag := ⟨"bucket-policy", none, .value fun s => (BucketPolicy.ofText? s).isSome⟩

def force : Flag := ⟨"force", none, .mark⟩

/-- The options that stand before the task. -/
def outer : List Flag := [color, logLevel, help, version]

def common : List Flag := [color, logLevel, help]

def generate : List Flag :=
  [manifest, text "manifest-path", format, output, text "runtime-crate", policy] ++ common

def validate : List Flag := [manifest, text "manifest-path", policy] ++ common

def init : List Flag := [text "manifest-path", force] ++ common

end Flag

/-- Options with their values, and other arguments. -/
structure Given where
  options : List (String × String) := []
  words : List String := []

namespace Given

def get? (g : Given) (name : String) : Option String :=
  (g.options.find? fun e => e.1 = name).map (·.2)

def has (g : Given) (name : String) : Bool :=
  (g.get? name).isSome

/-- With one more option, which must not be there yet. -/
def add (g : Given) (name value : String) : Except Stop Given :=
  if g.has name then .error (.refused (.repeated name))
  else .ok { g with options := g.options ++ [(name, value)] }

/-- With one more argument that is no option, `most` in all. -/
def addWord (most : Nat) (g : Given) (word : String) : Except Stop Given :=
  if most ≤ g.words.length then .error (.refused (.unexpected word))
  else .ok { g with words := g.words ++ [word] }

end Given

/-- What an argument looks like. -/
inductive Shape where
  | escape
  | long (name : String) (value : Option String)
  | short (letter : Char) (value : Option String)
  | word

/-- The text without an equals sign at its start. -/
def afterEquals (cs : List Char) : List Char :=
  if cs.head? = some '=' then cs.drop 1 else cs

def shape (argument : String) : Shape :=
  match argument.toList with
  | ['-', '-'] => .escape
  | '-' :: '-' :: cs =>
    let value := match cs.dropWhile (· ≠ '=') with
      | [] => none
      | _ :: value => some (String.ofList value)
    .long (String.ofList (cs.takeWhile (· ≠ '='))) value
  | '-' :: letter :: cs =>
    .short letter (if cs.isEmpty then none else some (String.ofList (afterEquals cs)))
  | _ => .word

/-- The argument cannot be the value of the option before it. -/
def isOptionLike (argument : String) : Bool :=
  match shape argument with
  | .word => false
  | _ => true

/-- The arguments behind an option that takes a value from among them, and that value. -/
def takeValue (f : Flag) : Option String → List String → Except Stop (String × List String)
  | some value, rest => .ok (value, rest)
  | none, value :: rest =>
    if isOptionLike value then .error (.refused (.missingValue f.name)) else .ok (value, rest)
  | none, [] => .error (.refused (.missingValue f.name))

/-- What is given once the option has been read, and the arguments behind it. -/
def readFlag (g : Given) (f : Flag) (value : Option String) (short : Bool) (rest : List String) :
    Except Stop (Given × List String) :=
  match f.effect with
  | .value accepts => do
    let (value, rest) ← takeValue f value rest
    if accepts value then return (← g.add f.name value, rest)
    else .error (.refused (.badValue f.name value))
  | .mark =>
    if value.isSome then .error (.refused (.unwantedValue f.name))
    else do return (← g.add f.name "", rest)
  | .usage =>
    .error (if value.isSome ∧ !short then .refused (.unwantedValue f.name) else .usage)
  | .version =>
    .error (if value.isSome ∧ !short then .refused (.unwantedValue f.name) else .version)

/-- Everything that is given up to a word that is one too many, that word, and what stands
behind it. Behind an escape every argument is a word. -/
def readArguments (flags : List Flag) (most : Nat) :
    Nat → Given → List String → Except Stop (Given × List String)
  | 0, g, rest => .ok (g, rest)
  | _, g, [] => .ok (g, [])
  | fuel + 1, g, argument :: rest =>
    match shape argument with
    | .escape => do return (← rest.foldlM (Given.addWord most) g, [])
    | .long name value =>
      match flags.find? fun f => f.name = name with
      | none => .error (.refused (.unexpected argument))
      | some f => do
        let (g, rest) ← readFlag g f value false rest
        readArguments flags most fuel g rest
    | .short letter value =>
      match flags.find? fun f => f.short = some letter with
      | none => .error (.refused (.unexpected argument))
      | some f => do
        let (g, rest) ← readFlag g f value true rest
        readArguments flags most fuel g rest
    | .word =>
      if g.words.length < most then do
        readArguments flags most fuel (← g.addWord most argument) rest
      else .ok (g, argument :: rest)

/-- Everything that is given to a task. -/
def readTask (flags : List Flag) (most : Nat) (arguments : List String) : Except Stop Given := do
  match ← readArguments flags most (arguments.length + 1) {} arguments with
  | (g, []) => .ok g
  | (_, word :: _) => .error (.refused (.unexpected word))

namespace Given

def origin (g : Given) : Origin where
  manifest := g.get? "manifest"
  cargoManifest := (g.get? "manifest-path").getD "Cargo.toml"

def policy (g : Given) : Option BucketPolicy :=
  (g.get? "bucket-policy").bind BucketPolicy.ofText?

def generate (g : Given) : Generate where
  origin := g.origin
  backend := ((g.get? "format").bind Backend.ofText?).getD .rust
  output := g.get? "output"
  crateName := g.get? "runtime-crate"
  policy := g.policy

def validate (g : Given) : Validate where
  origin := g.origin
  policy := g.policy

def init (g : Given) : Init where
  output := g.words.head?
  cargoManifest := g.origin.cargoManifest
  force := g.has "force"

end Given

/-- The task with this name, and what is given to it. -/
def readNamed (name : String) (arguments : List String) : Except Stop (Task × Given) :=
  match name with
  | "generate" => do
    let g ← readTask Flag.generate 0 arguments
    return (.generate g.generate, g)
  | "validate" => do
    let g ← readTask Flag.validate 0 arguments
    return (.validate g.validate, g)
  | "init" => do
    let g ← readTask Flag.init 1 arguments
    return (.init g.init, g)
  | "help" =>
    match arguments with
    | [] => .error .usage
    | name :: _ =>
      if name ∈ ["generate", "validate", "init", "help"] then .error .usage
      else .error (.refused (.unexpected name))
  | name => .error (.refused (.unexpected name))

/-- The invocation that the arguments ask for. -/
def Invocation.ofArguments (arguments : List String) : Except Stop Invocation := do
  match ← readArguments Flag.outer 0 (arguments.length + 1) {} arguments with
  | (_, []) => .error (.refused .noTask)
  | (before, name :: rest) =>
    let (task, behind) ← readNamed name rest
    let last (option : String) : Option String := (behind.get? option).or (before.get? option)
    return {
      task := task
      color := ((last "color").bind ColorMode.ofText?).getD .auto
      logLevel := ((last "log-level").bind logLevelOfText?).getD none }

end MetricFacade.Command
