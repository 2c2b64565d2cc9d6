import MetricFacade.Bucket.Fault
import MetricFacade.Metric.Resolved
import MetricFacade.Registry.Basic

/-!
# Instruments

A metric while the program runs: one series for each combination of label values that was
asked for, or a single series if the metric has no labels. A series counts, or it holds a
value, or it sorts observations by the bounds of its buckets.

The client library computes these bounds when a histogram is built from its specification. A
geometric ladder is multiplied up from its start. In an arithmetic one every bound is computed
from the start anew, which may differ in the last digit from adding up.
-/
namespace MetricFacade.Live

open Bucket Registry

/-! ## Ladders -/

/-- The bounds of an arithmetic ladder: the start and so many times the width. -/
def evenSteps (start width : Float) (count : Nat) : List Float :=
  (List.range count).map fun i => start + width * i.toFloat

/-- A client library does not compute a ladder without bounds, nor one that could not ascend. -/
def refusesLadder : Spec → Bool
  | .exponential start factor count => count = 0 || start ≤ 0 || factor ≤ 1
  | .linear _ width count => count = 0 || width ≤ 0
  | .explicit _ | .standard => false

/-- The bounds that a running histogram has. -/
def clientBounds : Spec → List Float
  | .explicit values => values
  | .exponential start factor count => ladder (· * factor) count start
  | .linear start width count => evenSteps start width count
  | .standard => standardLadder

/-! ## Series -/

/-- What a series has come to. -/
inductive State where
  | number (x : Float)
  /-- The observations: their count, their sum, and for each bound how many lie at or below it
  and above the bound before. -/
  | distribution (count : Nat) (sum : Float) (tallies : List Nat)
  deriving Repr, DecidableEq

/-- What can be done to a series. -/
inductive Action where
  | add (x : Float)
  | subtract (x : Float)
  | set (x : Float)
  | observe (x : Float)
  deriving Repr, DecidableEq

namespace Action

/-- The action is one of those that a metric of this kind has. Counters only go up or back to
zero. -/
def suits : Metric.Kind → Action → Bool
  | .counter, add _ => true
  | .counter, set x => x == 0
  | .gauge, add _ | .gauge, subtract _ | .gauge, set _ => true
  | .histogram, observe _ => true
  | _, _ => false

end Action

/-- One more in the place of the first bound that `x` does not exceed, if there is one. -/
def tally (x : Float) : List Float → List Nat → List Nat
  | bound :: bounds, n :: ns => if x ≤ bound then (n + 1) :: ns else n :: tally x bounds ns
  | _, ns => ns

/-- The bounds, each with the tallies up to it added up. -/
def cumulate : Nat → List Float → List Nat → List (Float × Nat)
  | below, bound :: bounds, n :: ns => (bound, below + n) :: cumulate (below + n) bounds ns
  | _, _, _ => []

namespace State

def start (kind : Metric.Kind) (bounds : List Float) : State :=
  if kind = .histogram then distribution 0 0.0 (bounds.map fun _ => 0) else number 0.0

def after (bounds : List Float) : State → Action → State
  | number x, .add y => number (x + y)
  | number x, .subtract y => number (x - y)
  | number _, .set y => number y
  | distribution count sum tallies, .observe y =>
    distribution (count + 1) (sum + y) (tally y bounds tallies)
  | s, _ => s

def measured (bounds : List Float) : State → Measured
  | number x => .number x
  | distribution count sum tallies => .distribution count sum (cumulate 0 bounds tallies)

end State

structure Series where
  /-- In the order in which the metric declares its labels. -/
  values : List String
  state : State
  deriving Repr, DecidableEq

structure Instrument where
  metric : Metric.Resolved
  series : List Series
  deriving Repr, DecidableEq

namespace Instrument

def bounds (i : Instrument) : List Float :=
  (i.metric.buckets.map clientBounds).getD []

/-- A new series with these label values. -/
def newSeries (i : Instrument) (values : List String) : Series :=
  ⟨values, .start i.metric.kind i.bounds⟩

/-- The instrument of a metric before anything is done to it. -/
def ofMetric (m : Metric.Resolved) : Instrument :=
  let none : Instrument := ⟨m, []⟩
  if m.labels.isEmpty then ⟨m, [none.newSeries []]⟩ else none

/-- Series are told apart by their label values, written one after the other. -/
def seriesKey (values : List String) : String :=
  String.join values

/-- The instrument with a series for these label values. -/
def reach (i : Instrument) (values : List String) : Instrument :=
  if i.series.any fun s => seriesKey s.values = seriesKey values then i
  else { i with series := i.series ++ [i.newSeries values] }

def state? (i : Instrument) (values : List String) : Option State :=
  (i.series.find? fun s => seriesKey s.values = seriesKey values).map (·.state)

/-- The instrument after an action on the series with these label values. -/
def perform (i : Instrument) (values : List String) (a : Action) : Instrument :=
  let i := i.reach values
  { i with series := i.series.map fun s =>
      if seriesKey s.values = seriesKey values then { s with state := s.state.after i.bounds a }
      else s }

def descriptor (i : Instrument) : Descriptor where
  name := i.metric.name
  help := i.metric.help
  labels := i.metric.labels

/-- The label under which a histogram exports its bounds. -/
def boundLabel : String := "le"

/-- What a client library asks of the labels of a metric of this kind. -/
def acceptsLabels (kind : Metric.Kind) (labels : List String) : Bool :=
  Descriptor.areLabels labels && !(kind = .histogram && labels.contains boundLabel)

/-- Why the instrument cannot be built, if it cannot. A histogram with labels looks at its
bounds only once it makes a series. -/
def refusal? (i : Instrument) : Option Rejection :=
  if i.metric.buckets.any refusesLadder then some (.illegalBuckets i.metric.name)
  else if !i.descriptor.hasLegalOptions || !acceptsLabels i.metric.kind i.metric.labels then
    some (.illegalDescriptor i.metric.name)
  else if i.metric.labels.isEmpty && (Bucket.firstDescent i.bounds).isSome then
    some (.illegalBuckets i.metric.name)
  else none

def measurement (i : Instrument) (s : Series) : Measurement where
  labels := sortBy (fun a b => textLe a.1 b.1) (i.metric.labels.zip s.values)
  measured := s.state.measured i.bounds

def family (i : Instrument) : Family where
  name := i.metric.name
  help := i.metric.help
  kind := i.metric.kind
  measurements := i.series.map i.measurement

end Instrument

end MetricFacade.Live
