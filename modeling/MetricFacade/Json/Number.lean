import MetricFacade.Document
import MetricFacade.Number.Reading

/-!
# Reading JSON numbers

Digits are gathered into a significand of 64 bits. A whole number that fits 64 bits, with or
without a sign, stays one; any other becomes a double: the significand, rounded, times or
divided by a power of ten. Digits that no longer fit only move the exponent. The result
is therefore not always the nearest double, but it is for numbers with few digits and a
small exponent.
-/
namespace MetricFacade.Json

open Number

/-- The significands are below this. -/
def significandLimit : Nat := Nat.pow 2 64

/-- The powers of ten that one multiplication or division may use. -/
def greatestPower : Int := 308

def power (n : Nat) : Float :=
  (Decimal.mk 1 n).nearest

/-- `significand · 10^exponent`, unless it is too large. -/
def scaled? (significand : Nat) (exponent : Int) : Option Float :=
  let f := (Decimal.mk significand 0).nearest
  if 0 ≤ exponent then
    if exponent ≤ greatestPower then
      let product := f * power exponent.toNat
      if product.isInf then none else some product
    else if significand = 0 then some 0 else none
  else if -greatestPower ≤ exponent then some (f / power (-exponent).toNat)
  else if -2 * greatestPower ≤ exponent then
    some (f / power 308 / power (-exponent - greatestPower).toNat)
  else some 0

/-- Digits gathered so far: the significand, and how many digits did not fit. -/
structure Gathered where
  significand : Nat
  dropped : Nat

/-- One more digit before the point. Once a digit does not fit, no later one is taken. -/
def Gathered.whole (g : Gathered) (c : Char) : Gathered :=
  let next := 10 * g.significand + digitValue c
  if g.dropped = 0 ∧ next < significandLimit then ⟨next, 0⟩
  else ⟨g.significand, g.dropped + 1⟩

/-- The significand with the digits behind the point, and how many of them fit. -/
def gatherFraction : Nat → Nat → List Char → Nat × Nat
  | significand, taken, [] => (significand, taken)
  | significand, taken, c :: rest =>
    let next := 10 * significand + digitValue c
    if next < significandLimit then gatherFraction next (taken + 1) rest
    else (significand, taken)

/-- The parts of a number: digits before the point, digits behind it if there is one, and
the exponent if there is one. -/
structure NumberParts where
  whole : List Char
  fraction : Option (List Char)
  exponent : Option Int

/-- The node of an unsigned number or of its negative. -/
def NumberParts.node (negative : Bool) (p : NumberParts) : Node :=
  let g := p.whole.foldl Gathered.whole ⟨0, 0⟩
  let sign (f : Float) : Node := .double (if negative then -f else f)
  if p.fraction.isNone ∧ p.exponent.isNone ∧ g.dropped = 0 then
    if !negative then .int g.significand
    else if g.significand = 0 ∨ Nat.pow 2 63 < g.significand then
      sign (Decimal.mk g.significand 0).nearest
    else .int (-(g.significand : Int))
  else
    let (significand, taken) := gatherFraction g.significand 0 (p.fraction.getD [])
    match scaled? significand (g.dropped - taken + p.exponent.getD 0) with
    | some f => sign f
    | none => .unreadable

/-- Whether a minus stands here, and what follows the sign. -/
def splitSign : List Char → Bool × List Char
  | '-' :: cs => (true, cs)
  | '+' :: cs => (false, cs)
  | cs => (false, cs)

/-- The exponent behind its letter. -/
def splitExponent? (cs : List Char) : Option (Int × List Char) :=
  let (negative, cs) := splitSign cs
  let ds := cs.takeWhile isDigit
  if ds.isEmpty then none
  else
    let n : Int := ofDigits ds
    some (if negative then -n else n, cs.dropWhile isDigit)

/-- The digits behind the point, if a point stands here. There is one at least. -/
def splitFraction? : List Char → Option (Option (List Char) × List Char)
  | '.' :: cs =>
    if (cs.takeWhile isDigit).isEmpty then none
    else some (some (cs.takeWhile isDigit), cs.dropWhile isDigit)
  | cs => some (none, cs)

/-- The exponent, if its letter stands here. -/
def splitPower? : List Char → Option (Option Int × List Char)
  | 'e' :: cs | 'E' :: cs => (splitExponent? cs).map fun (n, rest) => (some n, rest)
  | cs => some (none, cs)

/-- The parts of an unsigned number at the start of a text, and what follows it. A zero
before the point stands alone. -/
def splitNumber? (cs : List Char) : Option (NumberParts × List Char) := do
  let whole := cs.takeWhile isDigit
  if whole.isEmpty ∨ (whole.head? = some '0' ∧ whole.length ≠ 1) then none
  let (fraction, cs) ← splitFraction? (cs.dropWhile isDigit)
  let (exponent, cs) ← splitPower? cs
  return (⟨whole, fraction, exponent⟩, cs)

/-- The number at the start of a text, and what follows it. What a number comes to, with or
without a minus before its parts, is left to `number`. -/
def splitNumberNode? (number : Bool → NumberParts → Node) : List Char → Option (Node × List Char)
  | '-' :: cs => (splitNumber? cs).map fun (p, rest) => (number true p, rest)
  | cs => (splitNumber? cs).map fun (p, rest) => (number false p, rest)

end MetricFacade.Json
