import MetricFacade.Document
import MetricFacade.Toml.DateTime
import MetricFacade.Yaml.Scalar

/-!
# TOML bare words

Booleans, whole numbers in four bases, doubles, and dates. Underscores may stand between
two digits. A whole number is kept at any size; a double that rounds to infinity is not.
-/
namespace MetricFacade.Toml

open Number

/-- The digits without their underscores, each of which stands between two digits. -/
def joined? (isDigit : Char → Bool) : List Char → Option (List Char)
  | [] => none
  | [c] => if isDigit c then some [c] else none
  | c :: '_' :: rest => if isDigit c then (joined? isDigit rest).map (c :: ·) else none
  | c :: rest => if isDigit c then (joined? isDigit rest).map (c :: ·) else none

def isHexDigit (c : Char) : Bool :=
  isDigit c || ('a' ≤ c && c ≤ 'f') || ('A' ≤ c && c ≤ 'F')

/-- A whole number in a base of at most sixteen. -/
def based? (base : Nat) (cs : List Char) : Option Nat := do
  Yaml.readBase? base (← joined? isHexDigit cs)

/-- Decimal digits with no needless zero in front. -/
def decimal? (cs : List Char) : Option (List Char) := do
  let ds ← joined? isDigit cs
  if ds.head? = some '0' ∧ ds.length ≠ 1 then none else some ds

def unsignedInt? (cs : List Char) : Option Nat :=
  (decimal? cs).map ofDigits

/-- Sign and magnitude. -/
def splitSign : List Char → Bool × List Char
  | '-' :: cs => (true, cs)
  | '+' :: cs => (false, cs)
  | cs => (false, cs)

def int? (cs : List Char) : Option Int :=
  match cs with
  | '0' :: 'x' :: ds => (based? 16 ds).map Int.ofNat
  | '0' :: 'o' :: ds => (based? 8 ds).map Int.ofNat
  | '0' :: 'b' :: ds => (based? 2 ds).map Int.ofNat
  | cs =>
    let (negative, ds) := splitSign cs
    (unsignedInt? ds).map fun n => if negative then -(n : Int) else n

/-- The exponent behind its letter: digits, zeros in front allowed. -/
def exponent? (cs : List Char) : Option Int :=
  let (negative, ds) := splitSign cs
  (joined? isDigit ds).map fun ds => if negative then -(ofDigits ds : Int) else ofDigits ds

/-- A decimal with a fraction, an exponent or both. -/
def fractional? (cs : List Char) : Option Decimal := do
  let isPart (c : Char) : Bool := isDigit c || c = '_'
  let whole ← decimal? (cs.takeWhile isPart)
  let (fraction, rest) ← match cs.dropWhile isPart with
    | '.' :: rest => do
      let ds ← joined? isDigit (rest.takeWhile isPart)
      some (ds, rest.dropWhile isPart)
    | rest => some ([], rest)
  let exponent ← match rest with
    | [] => if fraction.isEmpty then none else some 0
    | 'e' :: rest | 'E' :: rest => exponent? rest
    | _ => none
  return ⟨ofDigits (whole ++ fraction), exponent - fraction.length⟩

def double? (cs : List Char) : Option Float :=
  let (negative, magnitude) := splitSign cs
  let sign (x : Float) : Float := if negative then -x else x
  if magnitude = ['i', 'n', 'f'] then some (sign Yaml.infinity)
  else if magnitude = ['n', 'a', 'n'] then some Yaml.notANumber
  else
    match fractional? magnitude with
    | some d => if d.nearest.isInf then none else some (sign d.nearest)
    | none => none

/-- The node of a bare word. -/
def bareNode? (cs : List Char) : Option Node :=
  if cs = ['t', 'r', 'u', 'e'] then some (.flag true)
  else if cs = ['f', 'a', 'l', 's', 'e'] then some (.flag false)
  else
    match int? cs with
    | some n => some (.int n)
    | none =>
      match double? cs with
      | some x => some (.double x)
      | none => if isDateTime cs then some .dateTime else none

end MetricFacade.Toml
