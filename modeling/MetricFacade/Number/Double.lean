/-!
# Doubles as exact numbers

A finite double is `±m · 2^q`. `significand` reads `m` and `q` off its bits, and
`nearestBits` goes the other way: it rounds a quotient of naturals to the nearest
double, a half going to the even neighbour. Both compute with naturals only.
-/
namespace MetricFacade.Number

/-- Bits of the fraction field. -/
def fractionWidth : Nat := 52

/-- The exponent of the smallest double above zero. -/
def minExponent : Int := -1074

/-- The bits of positive infinity, which are also where the magnitudes end. -/
def infinityBits : Nat := 2047 * Nat.pow 2 fractionWidth

def isNegative (x : Float) : Bool :=
  Nat.pow 2 63 ≤ x.toBits.toNat

/-- The bits of a double less its sign. -/
def magnitudeBits (x : Float) : Nat :=
  x.toBits.toNat % Nat.pow 2 63

/-- The `m` and `q` of a magnitude `m · 2^q`, from its bits. -/
def significand (bits : Nat) : Nat × Int :=
  let field := bits / Nat.pow 2 fractionWidth
  let fraction := bits % Nat.pow 2 fractionWidth
  if field = 0 then (fraction, minExponent)
  else (fraction + Nat.pow 2 fractionWidth, minExponent + field - 1)

/-- `num / den`, rounded to the nearest natural, a half to the even one. -/
def divideToEven (num den : Nat) : Nat :=
  let quot := num / den
  let twice := 2 * (num % den)
  if twice < den then quot
  else if den < twice then quot + 1
  else quot + quot % 2

/-- Numerator and denominator of `num / den / 2^q`. -/
def scaleBinary (num den : Nat) (q : Int) : Nat × Nat :=
  (num * Nat.pow 2 (-q).toNat, den * Nat.pow 2 q.toNat)

/-- The exponent that the double nearest to `num / den` is written with, before rounding. -/
def binaryExponent (num den : Nat) : Int :=
  let least := max ((num.log2 : Int) - den.log2 - 53) minExponent
  let (n, d) := scaleBinary num den least
  if n / d < Nat.pow 2 (fractionWidth + 1) then least else least + 1

/-- The bits of the double nearest to `num / den`, those of infinity past the largest. -/
def nearestBits (num den : Nat) : Nat :=
  if num = 0 then 0
  else
    let q := binaryExponent num den
    let (n, d) := scaleBinary num den q
    min ((q - minExponent).toNat * Nat.pow 2 fractionWidth + divideToEven n d) infinityBits

end MetricFacade.Number
