/-!
# Classes of characters

A class that no short formula describes is a table of runs: every `step`-th code point from
`first` to `last`. Alternating capital and small letters are one run of step two. The blank
characters, those with the Unicode property White_Space, need no table. Trimming removes them
at both ends of a text and nowhere else.
-/
namespace MetricFacade.Text

/-! ## Runs -/

/-- Every `step`-th code point from `first` to `last`. -/
structure CharRun where
  first : Nat
  last : Nat
  step : Nat
  deriving Repr, DecidableEq

namespace CharRun

def covers (r : CharRun) (n : Nat) : Bool :=
  r.first ≤ n && n ≤ r.last && (n - r.first) % r.step == 0

end CharRun

/-- Some run of the table holds the character. -/
def inRuns (table : List CharRun) (c : Char) : Bool :=
  table.any (·.covers c.toNat)

/-! ## Blanks -/

/-- The Unicode property White_Space. -/
def isBlank (c : Char) : Bool :=
  let n := c.toNat
  (9 ≤ n && n ≤ 13) || n == 0x20 || n == 0x85 || n == 0xa0 || n == 0x1680
    || (0x2000 ≤ n && n ≤ 0x200a) || n == 0x2028 || n == 0x2029 || n == 0x202f
    || n == 0x205f || n == 0x3000

/-- Blanks removed at the end only. -/
def trimEnd (cs : List Char) : List Char :=
  (cs.reverse.dropWhile isBlank).reverse

/-- Blanks removed at both ends. -/
def trim (cs : List Char) : List Char :=
  trimEnd (cs.dropWhile isBlank)

/-- Nothing but blanks, or nothing at all. -/
def isAllBlank (s : String) : Bool :=
  s.toList.all isBlank

end MetricFacade.Text
