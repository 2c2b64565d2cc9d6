import MetricFacade.Number.Double

/-!
# Decimals and doubles

A decimal is `digits · 10^exponent`. `Decimal.nearest` is the double nearest to it.
`shortest` is the way back: of the decimals that are nearest to a given double and
no other, one with the fewest digits, and of those the one closest to the double.
Only the two neighbours of the double on each decimal grid need a look: where any
point of the grid reads back, one of them does.
-/
namespace MetricFacade.Number

/-- `digits · 10^exponent`. -/
structure Decimal where
  digits : Nat
  exponent : Int
  deriving Repr, DecidableEq

/-- How many decimal digits a natural has; none for zero. -/
def digitCount (n : Nat) : Nat :=
  if n = 0 then 0 else (Nat.toDigits 10 n).length

namespace Decimal

/-- Numerator and denominator. -/
def ratio (d : Decimal) : Nat × Nat :=
  (d.digits * Nat.pow 10 d.exponent.toNat, Nat.pow 10 (-d.exponent).toNat)

/-- The bits of the nearest double. The two early answers only save work: a decimal
below `10^-330` rounds to zero and one from `10^310` on to infinity. -/
def nearestBits (d : Decimal) : Nat :=
  let top := d.exponent + digitCount d.digits
  if d.digits = 0 ∨ top < -330 then 0
  else if 310 < top then infinityBits
  else Number.nearestBits d.ratio.1 d.ratio.2

def nearest (d : Decimal) : Float :=
  Float.ofBits d.nearestBits.toUInt64

/-- The same number with no zero at its end. -/
def trimmed (d : Decimal) : Decimal :=
  let written := Nat.toDigits 10 d.digits
  let zeros := (written.reverse.takeWhile (· = '0')).length
  if d.digits = 0 then ⟨0, 0⟩ else ⟨d.digits / Nat.pow 10 zeros, d.exponent + zeros⟩

end Decimal

/-- Which of two equally close shortest decimals is taken. -/
inductive Tie where
  | upper
  | even
  deriving Repr, DecidableEq

/-- The `t` with `10^(t-1) ≤ num / den < 10^t`, for a quotient above zero. -/
def decimalTop (num den : Nat) : Int :=
  if den ≤ num then digitCount (num / den)
  else 1 - (digitCount ((den - 1) / num) : Int)

/-- The closest decimal of `10^exponent` steps that reads back as the magnitude with
these bits, if one does. -/
def readingBack (tie : Tie) (bits num den : Nat) (exponent : Int) : Option Decimal :=
  let n := num * Nat.pow 10 (-exponent).toNat
  let d := den * Nat.pow 10 exponent.toNat
  let below : Decimal := ⟨n / d, exponent⟩
  let above : Decimal := ⟨n / d + 1, exponent⟩
  let twice := 2 * (n % d)
  let belowFirst := twice < d || (twice == d && tie == .even && below.digits % 2 == 0)
  let (first, second) := if belowFirst then (below, above) else (above, below)
  if first.nearestBits = bits then some first
  else if second.nearestBits = bits then some second
  else none

/-- The exact decimal of `m · 2^q`. -/
def exactDecimal (m : Nat) (q : Int) : Decimal :=
  if 0 ≤ q then ⟨m * Nat.pow 2 q.toNat, 0⟩ else ⟨m * Nat.pow 5 (-q).toNat, q⟩

/-- A shortest decimal that reads back as the finite magnitude with these bits, with no
zero at its end. Seventeen digits always suffice; the exact decimal closes the search. -/
def shortest (tie : Tie) (bits : Nat) : Decimal :=
  let (m, q) := significand bits
  if m = 0 then ⟨0, 0⟩
  else
    let num := m * Nat.pow 2 q.toNat
    let den := Nat.pow 2 (-q).toNat
    let top := decimalTop num den
    let found := (List.range 17).findSome? fun (p : Nat) => readingBack tie bits num den (top - (p + 1))
    (found.getD (exactDecimal m q)).trimmed

end MetricFacade.Number
