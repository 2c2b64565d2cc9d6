import MetricFacade.Cache.Basic
import MetricFacade.Catalog
import MetricFacade.Live.Instrument
import MetricFacade.Rust.Ident

/-!
# Facades in a registry

Creating a facade makes an instrument for each of its metrics and registers them all, or
none. A registry can be reached through several handles; a facade is created once for each
handle, and found again from then on. What was created goes on working whatever becomes of
the registry.
-/
namespace MetricFacade.Live

open Registry

/-- The number of a handle. -/
abbrev Handle := Nat

/-- Where the measurements of a collector come from. -/
inductive Source where
  /-- An instrument of a facade: the numbers of both. -/
  | ofFacade (instance_ : Nat) (metric : Nat)
  /-- An instrument that somebody else has registered. -/
  | foreign (i : Instrument)
  deriving Repr, DecidableEq

/-- A facade that was created. -/
structure Instance where
  facade : Facade
  /-- One for each metric of the facade, in order. -/
  instruments : List Instrument
  deriving Repr, DecidableEq

namespace Instance

def ofFacade (f : Facade) : Instance :=
  ⟨f, f.metrics.map Instrument.ofMetric⟩

/-- The collectors of the instance with this number. -/
def collectors (number : Nat) (x : Instance) : List (Collector Source) :=
  x.instruments.zipIdx.map fun (i, k) => ⟨[i.descriptor], .ofFacade number k⟩

/-- The accessor belongs to the metric. -/
def answersTo (accessor : String) (m : Metric.Resolved) : Bool :=
  Rust.Ident.member m.accessor = accessor

/-- The instance after an action through an accessor, and what the series has come to. -/
def call (x : Instance) (accessor : String) (values : List String) (a : Action) :
    Option (Instance × State) := do
  let k ← x.instruments.findIdx? fun i => answersTo accessor i.metric
  let i ← x.instruments[k]?
  if values.length ≠ i.metric.labels.length ∨ !a.suits i.metric.kind then none
  else
    let i := i.perform values a
    return ({ x with instruments := x.instruments.set k i }, ← i.state? values)

end Instance

/-- A registry with all that was created in it. -/
structure Store where
  registry : Registry Source := {}
  instances : List Instance := []
  /-- The instance of each handle and facade. -/
  created : Cache (Handle × Facade) Nat := {}

namespace Store

/-- A registry with nothing in it. -/
def empty : Store := {}

variable [Digest]

/-- Makes the instruments of a facade and registers them. All are made before the first is
registered. -/
def build (f : Facade) (s : Registry Source × List Instance) :
    (Registry Source × List Instance) × Cache.Attempt Nat Rejection :=
  let (registry, instances) := s
  let x := Instance.ofFacade f
  match x.instruments.findSome? (·.refusal?) with
  | some why => (s, .failed why)
  | none =>
    match registry.registerAll (x.collectors instances.length) with
    | (registry, .error why) => ((registry, instances), .failed why)
    | (registry, .ok ()) => ((registry, instances ++ [x]), .made instances.length)

/-- The facade for the handle, created if it has not been yet. -/
def create (s : Store) (handle : Handle) (f : Facade) : Store × Cache.Attempt Nat Rejection :=
  let (created, (registry, instances), attempt) :=
    s.created.obtain? (handle, f) (build f) (s.registry, s.instances)
  (⟨registry, instances, created⟩, attempt)

/-- The store after somebody else has dealt with its registry. -/
def withRegistry (s : Store) (result : Registry Source × Except Rejection Unit) :
    Store × Except Rejection Unit :=
  ({ s with registry := result.1 }, result.2)

/-- Somebody else registers a collector. -/
def enter (s : Store) (c : Collector Source) : Store × Except Rejection Unit :=
  s.withRegistry (s.registry.register c)

/-- Somebody else registers several collectors, or none of them. -/
def enterAll (s : Store) (cs : List (Collector Source)) : Store × Except Rejection Unit :=
  s.withRegistry (s.registry.registerAll cs)

/-- Somebody else unregisters what this collector would be taken for. -/
def leave (s : Store) (c : Collector Source) : Store × Except Rejection Unit :=
  s.withRegistry (s.registry.unregister c)

/-- A counter that somebody else makes, without labels. -/
def foreignCounter (name help : String) : Instrument :=
  .ofMetric {
    name := name, help := help, labels := [], kind := .counter, buckets := none
    accessor := name, field := name, scope := "", site := "" }

def foreignCollector (name help : String) : Except Rejection (Collector Source) :=
  let i := foreignCounter name help
  match i.refusal? with
  | none => .ok ⟨[i.descriptor], .foreign i⟩
  | some why => .error why

/-- Somebody else registers a counter. -/
def occupy (s : Store) (name help : String) : Store × Except Rejection Unit :=
  match foreignCollector name help with
  | .error why => (s, .error why)
  | .ok c => s.enter c

/-- Somebody else unregisters what a counter of this name and help text would be taken for. -/
def vacate (s : Store) (name help : String) : Store × Except Rejection Unit :=
  match foreignCollector name help with
  | .error why => (s, .error why)
  | .ok c => s.leave c

/-- The store after an action on the instance with this number. -/
def call (s : Store) (number : Nat) (accessor : String) (values : List String) (a : Action) :
    Option (Store × State) := do
  let x ← s.instances[number]?
  let (x, state) ← x.call accessor values a
  return ({ s with instances := s.instances.set number x }, state)

/-- The instrument that a collector stands for. -/
def instrument? (s : Store) : Source → Option Instrument
  | .foreign i => some i
  | .ofFacade number k => do (← s.instances[number]?).instruments[k]?

def families (s : Store) (c : Collector Source) : List Family :=
  ((s.instrument? c.source).map (·.family)).toList

/-- What the registry tells. -/
def gather (s : Store) : List Family :=
  s.registry.gather s.families

end Store

end MetricFacade.Live
