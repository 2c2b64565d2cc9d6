import MetricFacade.Number.Decimal

/-!
# Reading decimal text

`readUnsigned` reads digits with an optional point and an optional exponent. Digits may be
missing on one side of the point, not on both. The value is exact; rounding to a double
comes after.
-/
namespace MetricFacade.Number

def isDigit (c : Char) : Bool :=
  '0' ≤ c && c ≤ '9'

def digitValue (c : Char) : Nat :=
  c.toNat - '0'.toNat

/-- The natural that decimal digits stand for. -/
def ofDigits (ds : List Char) : Nat :=
  ds.foldl (fun n c => 10 * n + digitValue c) 0

/-- A text of digits, at least one. -/
def readNat? (cs : List Char) : Option Nat :=
  if cs.isEmpty || !cs.all isDigit then none else some (ofDigits cs)

/-- An exponent: digits, with or without a sign. -/
def readExponent? : List Char → Option Int
  | '-' :: ds => (readNat? ds).map fun n => -(n : Int)
  | '+' :: ds => (readNat? ds).map fun n => (n : Int)
  | ds => (readNat? ds).map fun n => (n : Int)

/-- A text that is a decimal without a sign, from its first character to its last. -/
def readUnsigned? (cs : List Char) : Option Decimal :=
  let whole := cs.takeWhile isDigit
  let afterWhole := cs.dropWhile isDigit
  let (fraction, tail) := match afterWhole with
    | '.' :: rest => (rest.takeWhile isDigit, rest.dropWhile isDigit)
    | rest => ([], rest)
  if whole.isEmpty && fraction.isEmpty then none
  else
    let value (exponent : Int) : Decimal :=
      ⟨ofDigits (whole ++ fraction), exponent - fraction.length⟩
    match tail with
    | [] => some (value 0)
    | c :: rest =>
      if c = 'e' || c = 'E' then (readExponent? rest).map value else none

/-- The nearest double to a decimal with an optional sign. -/
def readDouble? : List Char → Option Float
  | '-' :: cs => (readUnsigned? cs).map fun d => -d.nearest
  | '+' :: cs => (readUnsigned? cs).map Decimal.nearest
  | cs => (readUnsigned? cs).map Decimal.nearest

end MetricFacade.Number
