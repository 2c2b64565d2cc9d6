import MetricFacade.Rust.Facade

/-!
# The tokens of a generated facade

Every path into the crate that generated code links against is absolute, so the code can
be included anywhere. `rt` is that crate, as an identifier in source text.
-/
namespace MetricFacade.Rust

open Token

/-- An absolute path into the crate `rt`. -/
def crateItem (rt : String) (path : List String) : List Token :=
  codes ["::", rt] ++ codes (path.flatMap fun segment => ["::", segment])

/-- A path into the client library that `rt` re-exports. -/
def clientItem (rt : String) (path : List String) : List Token :=
  crateItem rt ("prometheus" :: path)

/-- `rt :: prometheus :: Result < inner >` -/
def clientResult (rt : String) (inner : List Token) : List Token :=
  clientItem rt ["Result"] ++ code "<" :: inner ++ [code ">"]

def metaItem (content : List Token) : List Token :=
  codes ["#", "["] ++ content ++ [code "]"]

def docItem (doc : Token) : List Token :=
  metaItem (codes ["doc", "="] ++ [doc])

def braced (content : List Token) : List Token :=
  code "\x7b" :: content ++ [code "\x7d"]

def BucketCall.tokens (rt : String) : BucketCall → List Token
  | exponential start factor count =>
    formula "exponential_buckets" start factor count
  | linear start width count =>
    formula "linear_buckets" start width count
  | bounds values =>
    codes ["vec", "!", "["] ++ commaSeparated (values.map double) ++ [code "]"]
where
  formula (function : String) (first second : Float) (count : Nat) : List Token :=
    clientItem rt [function] ++ code "("
      :: commaSeparated [double first, double second, [code (toString count ++ "usize")]]
      ++ codes [")", "?"]

namespace Constructor

/-- The options: name and help, and the buckets if there are any. -/
def options (rt : String) (c : Constructor) : List Token :=
  let opts := if c.forHistogram then "HistogramOpts" else "Opts"
  let call := clientItem rt [opts, "new"]
    ++ code "(" :: commaSeparated [[text c.name], [text c.help]] ++ [code ")"]
  match c.buckets with
  | none => call
  | some buckets => call ++ codes [".", "buckets", "("] ++ buckets.tokens rt ++ [code ")"]

def tokens (rt : String) (c : Constructor) : List Token :=
  let call :=
    if c.labels.isEmpty then
      clientItem rt [c.handle, "with_opts"] ++ code "(" :: c.options rt ++ [code ")"]
    else
      clientItem rt [c.handle, "new"] ++ code "(" :: c.options rt ++ codes [",", "&", "["]
        ++ commaSeparated (c.labels.map fun label => [text label]) ++ codes ["]", ")"]
  codes ["let", c.field, "="] ++ call ++ codes ["?", ";"]

end Constructor

namespace Accessor

/-- The lint allowance, where a parameter needs it. -/
def allowance (a : Accessor) : List Token :=
  if a.allowsOtherCase then
    metaItem (codes ["allow", "(", "non_snake_case", ",", "reason", "="]
      ++ [text "parameters are named after their labels", code ")"])
  else []

/-- The array that pairs the parameters with the labels, in order. -/
def valuesArray (a : Accessor) : List Token :=
  codes ["let", "values", ":", "[", "&", "str", ";", toString a.params.length, "]", "=", "["]
    ++ commaSeparated (a.params.map fun p => [code p]) ++ codes ["]", ";"]

def tokens (rt : String) (a : Accessor) : List Token :=
  if a.params.isEmpty then
    docItem (text a.help) ++ metaItem [code "must_use"]
      ++ codes ["pub", "fn", a.name, "(", "&", "self", ")", "->"] ++ clientItem rt [a.child]
      ++ braced (codes ["self", ".", a.field, ".", "clone", "(", ")"])
  else
    docItem (text a.help) ++ a.allowance ++ metaItem [code "must_use"]
      ++ codes ["pub", "fn", a.name, "("]
      ++ commaSeparated (codes ["&", "self"]
        :: a.params.map fun p => codes [p, ":", "&", "str"])
      ++ codes [")", "->"] ++ clientItem rt [a.child]
      ++ braced (a.valuesArray
        ++ codes ["self", ".", a.field, ".", "with_label_values", "(", "&", "values", ")"])

end Accessor

namespace FacadeItems

def typeName : Token :=
  code (Ident.written Facade.typeName)

def structItem (rt : String) (f : FacadeItems) : List Token :=
  docItem (text ("Metrics declared in `" ++ f.scope ++ "`"))
    ++ codes ["pub", "struct"] ++ typeName :: braced
      (commaTerminated (f.constructors.map fun c =>
        codes [c.field, ":"] ++ clientItem rt [c.handle]))

def debugItem : List Token :=
  codes ["impl", "::", "core", "::", "fmt", "::", "Debug", "for"] ++ typeName :: braced
    (codes ["fn", "fmt", "(", "&", "self", ",", "f", ":", "&", "mut", "::", "core", "::", "fmt",
        "::", "Formatter", "<", "'_", ">", ")", "->", "::", "core", "::", "fmt", "::", "Result"]
      ++ braced (codes ["f", ".", "debug_struct", "("] ++ text Facade.typeName
        :: codes [")", ".", "finish_non_exhaustive", "(", ")"]))

/-- The cache of the facades that exist already. -/
def cacheItem (rt : String) : List Token :=
  codes ["static", "FACADES", ":"] ++ crateItem rt ["FacadeCache"] ++ code "<" :: typeName
    :: codes [">", "="] ++ crateItem rt ["FacadeCache", "new"] ++ codes ["(", ")", ";"]

/-- A field, ready to be registered. -/
def collector (rt : String) (field : String) : List Token :=
  codes ["Box", "::", "new", "(", field, ".", "clone", "(", ")", ")", "as", "Box", "<", "dyn"]
    ++ clientItem rt ["core", "Collector"] ++ [code ">"]

/-- The function that builds all metrics and registers them together. -/
def registerItem (rt : String) (f : FacadeItems) : List Token :=
  let fields := f.constructors.map (·.field)
  codes ["fn", "register_metrics", "(", "registry", ":", "&"] ++ clientItem rt ["Registry"]
    ++ codes [")", "->"] ++ clientResult rt [typeName]
    ++ braced (f.constructors.flatMap (·.tokens rt)
      ++ crateItem rt ["register_all"] ++ codes ["(", "registry", ",", "vec", "!", "["]
      ++ commaTerminated (fields.map (collector rt)) ++ codes ["]", ",", ")", "?", ";"]
      ++ codes ["Ok", "("] ++ typeName
        :: braced (commaTerminated (fields.map fun field => [code field])) ++ [code ")"])

/-- The result of both constructors: a shared facade. -/
def sharedResult (rt : String) : List Token :=
  clientItem rt ["Result"]
    ++ codes ["<", "::", "std", "::", "sync", "::", "Arc", "<", "Self", ">>"]

def createItem (rt : String) : List Token :=
  docItem (rawText " Returns the facade bound to the process-wide default registry.")
    ++ docItem (rawText "")
    ++ docItem
      (rawText " Every call returns the same instance; the metrics are registered on first use.")
    ++ codes ["pub", "fn", "create", "(", ")", "->"] ++ sharedResult rt
    ++ braced (codes ["Self", "::", "create_with_registry", "("]
      ++ crateItem rt ["default_registry"] ++ codes ["(", ")", ")"])

def createWithRegistryItem (rt : String) : List Token :=
  docItem
      (rawText " Returns the facade bound to `registry`, registering its metrics on first use.")
    ++ codes ["pub", "fn", "create_with_registry", "(", "registry", ":", "&"]
    ++ crateItem rt ["SharedRegistry"] ++ codes [")", "->"] ++ sharedResult rt
    ++ braced (codes ["FACADES", ".", "get_or_try_init", "(", "registry", ",",
      "register_metrics", ")"])

/-- All items of the namespace, in order. -/
def tokens (rt : String) (f : FacadeItems) : List Token :=
  f.structItem rt ++ debugItem ++ cacheItem rt ++ f.registerItem rt
    ++ code "impl" :: typeName :: braced
      (createItem rt ++ createWithRegistryItem rt ++ f.accessors.flatMap (·.tokens rt))

end FacadeItems

end MetricFacade.Rust
