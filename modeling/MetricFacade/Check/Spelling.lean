/-!
# Spellings of names, labels and identifiers

All three are made of ASCII letters, digits and `_`. A name needs one character, a label
does not start with a digit or with two underscores, and an identifier has a letter behind
its leading underscores.
-/
namespace MetricFacade.Check

def isWordChar (c : Char) : Bool :=
  c.isAlphanum || c = '_'

/-- `[A-Za-z0-9_]+` -/
def isName (s : String) : Bool :=
  !s.isEmpty && s.toList.all isWordChar

/-- `[A-Za-z_][A-Za-z0-9_]*` -/
def isWord (s : String) : Bool :=
  match s.toList with
  | [] => false
  | c :: rest => (c.isAlpha || c = '_') && rest.all isWordChar

/-- A word that does not start with two underscores. -/
def isLabel (s : String) : Bool :=
  isWord s && s.toList.take 2 != ['_', '_']

/-- `_*[A-Za-z][A-Za-z0-9_]*` -/
def isIdentifier (s : String) : Bool :=
  match s.toList.dropWhile (· = '_') with
  | [] => false
  | c :: rest => c.isAlpha && rest.all isWordChar

end MetricFacade.Check
