import MetricFacade.Number.Reading

/-!
# Unquoted YAML scalars

What an unquoted scalar stands for where a null, a number or a count is asked for. A
double is decimal text, possibly with a sign, or one of the named values; a decimal that
rounds to infinity is none. A count may also be hexadecimal, octal or binary, and a decimal
one has no needless zero in front.
-/
namespace MetricFacade.Yaml

open Number

def isNullWord (s : String) : Bool :=
  s ∈ ["", "~", "null", "Null", "NULL"]

def infinity : Float := 1.0 / 0.0

def notANumber : Float := 0.0 / 0.0

/-- The double that the scalar stands for. -/
def double? (s : String) : Option Float :=
  if s ∈ [".inf", ".Inf", ".INF", "+.inf", "+.Inf", "+.INF"] then some infinity
  else if s ∈ ["-.inf", "-.Inf", "-.INF"] then some (-infinity)
  else if s ∈ [".nan", ".NaN", ".NAN"] then some notANumber
  else
    match readDouble? s.toList with
    | some x => if x.isFinite then some x else none
    | none => none

/-- Digits in a base of at most sixteen, at least one. -/
def readBase? (base : Nat) (cs : List Char) : Option Nat :=
  let value (c : Char) : Nat :=
    if isDigit c then digitValue c
    else if 'a' ≤ c && c ≤ 'f' then c.toNat - 'a'.toNat + 10
    else if 'A' ≤ c && c ≤ 'F' then c.toNat - 'A'.toNat + 10
    else base
  if cs.isEmpty || cs.any fun c => base ≤ value c then none
  else some (cs.foldl (fun n c => base * n + value c) 0)

/-- Counts are below this. -/
def countLimit : Nat := Nat.pow 2 64

/-- The digits of an unsigned count, with the mark of their base if it is not ten. -/
def readCount? : List Char → Option Nat
  | '0' :: 'x' :: ds => readBase? 16 ds
  | '0' :: 'o' :: ds => readBase? 8 ds
  | '0' :: 'b' :: ds => readBase? 2 ds
  | '0' :: _ :: _ => none
  | ds => readBase? 10 ds

/-- The count that the scalar stands for. -/
def count? (s : String) : Option Nat :=
  let unsigned := match s.toList with
    | '+' :: rest => rest
    | rest => rest
  (readCount? unsigned).filter fun n => n < countLimit

end MetricFacade.Yaml
