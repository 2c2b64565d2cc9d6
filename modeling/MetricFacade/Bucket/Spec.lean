/-!
# Bucket specifications

How a histogram lays out its upper bounds: a list as given, a geometric or an
arithmetic ladder, or the standard ladder. A formulaic ladder is computed bound by
bound, each from the one before, so rounding errors accumulate.
-/
namespace MetricFacade.Bucket

/-- The kinds of specification, in order of precedence. -/
inductive Kind where
  | explicit
  | exponential
  | linear
  | standard
  deriving Repr, DecidableEq

namespace Kind

def rank : Kind → Nat
  | explicit => 0
  | exponential => 1
  | linear => 2
  | standard => 3

def le (a b : Kind) : Bool :=
  a.rank ≤ b.rank

def name : Kind → String
  | explicit => "explicit"
  | exponential => "exponential"
  | linear => "linear"
  | standard => "default"

end Kind

inductive Spec where
  | explicit (values : List Float)
  | exponential (start factor : Float) (count : Nat)
  | linear (start width : Float) (count : Nat)
  | standard
  deriving Repr, DecidableEq

/-- The ladder of a histogram that asks for none: fine steps from two milliseconds on,
coarser ones up to a minute. -/
def standardLadder : List Float :=
  [0.002, 0.004, 0.006, 0.008, 0.01, 0.02, 0.04, 0.06, 0.08, 0.1, 0.2, 0.4, 0.6, 0.8, 1.0,
   1.2, 1.4, 1.6, 1.8, 2.0, 2.5, 3.0, 3.5, 4.0, 4.5, 5.0, 5.5, 6.0, 6.5, 7.0, 7.5, 8.0, 8.5,
   9.0, 9.5, 10.0, 15.0, 20.0, 25.0, 30.0, 35.0, 40.0, 45.0, 50.0, 55.0, 60.0]

/-- `count` values, the first `start`, each further one made from the one before. -/
def ladder (step : Float → Float) : Nat → Float → List Float
  | 0, _ => []
  | count + 1, start => start :: ladder step count (step start)

namespace Spec

def kind : Spec → Kind
  | explicit _ => .explicit
  | exponential .. => .exponential
  | linear .. => .linear
  | standard => .standard

/-- The upper bounds that the specification stands for. -/
def bounds : Spec → List Float
  | explicit values => values
  | exponential start factor count => ladder (· * factor) count start
  | linear start width count => ladder (· + width) count start
  | standard => standardLadder

end Spec

end MetricFacade.Bucket
