import MetricFacade.Number.Decimal

/-!
# Numbers as text

`plain` writes a double with the fewest digits that read back, always positionally and
without a point where none is needed. `switching` writes it positionally, with at least
one digit behind the point, while its decimal exponent is between -5 and 15, and
otherwise as one digit, the rest behind a point, and a signed exponent.
-/
namespace MetricFacade.Number

/-- Digits without the point, and how many of them stand before it. -/
structure Digits where
  written : List Char
  point : Int

/-- The digits of a finite magnitude. -/
def digits (tie : Tie) (bits : Nat) : Digits :=
  let d := shortest tie bits
  let written := Nat.toDigits 10 d.digits
  ⟨written, d.exponent + written.length⟩

def zeros (n : Nat) : List Char :=
  List.replicate n '0'

namespace Digits

/-- No digit stands behind the point. -/
def isWhole (d : Digits) : Bool :=
  d.written.length ≤ d.point

/-- Every digit in its place, a point only where digits stand behind it. -/
def positional (d : Digits) : List Char :=
  if d.point ≤ 0 then '0' :: '.' :: zeros (-d.point).toNat ++ d.written
  else if d.isWhole then d.written ++ zeros (d.point.toNat - d.written.length)
  else d.written.take d.point.toNat ++ '.' :: d.written.drop d.point.toNat

/-- One digit before the point, and the exponent with its sign. -/
def scientific (d : Digits) : List Char :=
  let exponent := d.point - 1
  let sign := if exponent < 0 then '-' else '+'
  let fraction := match d.written.drop 1 with
    | [] => []
    | rest => '.' :: rest
  d.written.take 1 ++ fraction ++ 'e' :: sign :: Nat.toDigits 10 exponent.natAbs

/-- Positional with a digit behind the point while the exponent is between -5 and 15. -/
def switching (d : Digits) : List Char :=
  if -5 < d.point ∧ d.point ≤ 16 then
    if d.isWhole then d.positional ++ ['.', '0'] else d.positional
  else d.scientific

end Digits

def signed (x : Float) (magnitude : List Char) : List Char :=
  if isNegative x then '-' :: magnitude else magnitude

/-- Zero is one digit before the point. -/
def magnitudeDigits (tie : Tie) (x : Float) : Digits :=
  if magnitudeBits x = 0 then ⟨['0'], 1⟩ else digits tie (magnitudeBits x)

/-- Fewest digits, positional, never an exponent. -/
def plain (x : Float) : String :=
  if x.isNaN then "NaN"
  else if x.isInf then String.ofList (signed x ['i', 'n', 'f'])
  else String.ofList (signed x (magnitudeDigits .upper x).positional)

/-- Fewest digits, with an exponent outside the positional range; only for finite numbers. -/
def switching (x : Float) : List Char :=
  signed x (magnitudeDigits .even x).switching

end MetricFacade.Number
