import MetricFacade.Text.SnakeCase

/-!
# Identifiers of generated Rust code

A path keyword gets a trailing `_`, since it is no identifier even in raw form. Any
other keyword is kept and written with the prefix `r#`. Accessor parameters carry the
spelling of their label; the label `_`, which is a pattern and binds nothing, is named
by its position.
-/
namespace MetricFacade.Rust.Ident

/-- Words that stand for an identifier only in raw form. -/
def keywords : List String :=
  ["abstract", "as", "async", "await", "become", "box", "break", "const", "continue", "do",
   "dyn", "else", "enum", "extern", "false", "final", "fn", "for", "gen", "if", "impl", "in",
   "let", "loop", "macro", "match", "mod", "move", "mut", "override", "priv", "pub", "ref",
   "return", "static", "struct", "trait", "true", "try", "type", "typeof", "unsafe",
   "unsized", "use", "virtual", "where", "while", "yield"]

/-- Words that are no identifier in any form. -/
def pathKeywords : List String :=
  ["crate", "self", "Self", "super"]

/-- The spelling of a name, any raw marker left aside. -/
def escaped (name : String) : String :=
  if name ∈ pathKeywords then name ++ "_" else name

def isKeyword (name : String) : Bool :=
  name ∈ keywords

/-- The identifier as it stands in source text. -/
def written (name : String) : String :=
  let spelling := escaped name
  if isKeyword spelling then "r#" ++ spelling else spelling

/-- The member that a source identifier becomes, any raw marker left aside. -/
def member (name : String) : String :=
  escaped (Text.snakeCase name)

/-- The member that a source identifier becomes, as it stands in source text. -/
def writtenMember (name : String) : String :=
  written (Text.snakeCase name)

/-- The accessor parameter for the label at `index`. -/
def param (label : String) (index : Nat) : String :=
  if label = "_" then "label_" ++ toString index else escaped label

/-- Some parameter named after these labels is not in snake case. -/
def needsSnakeCaseAllowance (labels : List String) : Bool :=
  labels.any fun label =>
    (Text.snakeCase label).toList != label.toList.dropWhile (· = '_')

end MetricFacade.Rust.Ident
