import MetricFacade.Registry.Descriptor
import MetricFacade.Registry.Family

/-!
# Registries

A registry holds collectors and refuses those that would contradict what it holds. It keeps
a collector under the sum of its ids, and the ids of all collectors beside. It also remembers
the dimension of every name it has ever looked at, in order: a collector refused for its
third descriptor has left the dimensions of the first two behind, and so has a collector that
was removed. `registerAll` takes a list of collectors or none of them.
-/
namespace MetricFacade

namespace Registry

/-- Something with descriptors. `source` is where its measurements come from. -/
structure Collector (σ : Type) where
  descriptors : List Descriptor
  source : σ

/-- Why a registry refuses. -/
inductive Rejection where
  /-- A descriptor of this id, or a collector under the same key, is there. -/
  | alreadyRegistered
  /-- The name is known with another dimension. -/
  | otherDimension (name : String)
  /-- The collector has two descriptors of one id. -/
  | repeatedDescriptor (name : String)
  /-- The collector to be removed is not there. -/
  | notRegistered
  /-- The descriptor is not legal. -/
  | illegalDescriptor (name : String)
  /-- A histogram cannot be built with the buckets asked for. -/
  | illegalBuckets (name : String)
  deriving Repr, DecidableEq

def Rejection.message : Rejection → String
  | alreadyRegistered => "Duplicate metrics collector registration attempted"
  | otherDimension name => "'" ++ name ++ "' is known with other label names or another help text"
  | repeatedDescriptor name => "the collector describes '" ++ name ++ "' twice"
  | notRegistered => "the collector is not registered"
  | illegalDescriptor name => "'" ++ name ++ "' does not describe a metric"
  | illegalBuckets name => "'" ++ name ++ "' cannot be built with its buckets"

namespace Collector

variable {σ : Type}

/-- The ids of a collector, each once. -/
def ids [Digest] (c : Collector σ) : List UInt64 :=
  (c.descriptors.map (·.id)).eraseDups

/-- What a registry keeps a collector under: the sum of its ids, which wraps around. -/
def key [Digest] (c : Collector σ) : UInt64 :=
  c.ids.foldl (· + ·) 0

/-- Something that can be taken for the collector: its descriptors and nothing to measure. -/
def standIn (c : Collector σ) : Collector Unit :=
  ⟨c.descriptors, ()⟩

end Collector

/-- Dimensions by name. -/
abbrev Dimensions := List (String × Dimension)

end Registry

open Registry

structure Registry (σ : Type) where
  collectors : List (Collector σ) := []
  /-- The ids that are taken. -/
  ids : List UInt64 := []
  dimensions : Dimensions := []

namespace Registry

variable {σ : Type}

def Dimensions.get? (dims : Dimensions) (name : String) : Option Dimension :=
  (dims.find? fun e => e.1 = name).map (·.2)

/-- With the dimension under a name that has none yet. -/
def Dimensions.note (dims : Dimensions) (name : String) (dim : Dimension) : Dimensions :=
  if (dims.get? name).isSome then dims else dims ++ [(name, dim)]

/-- What the collectors measure now. -/
def gather (r : Registry σ) (collect : Collector σ → List Family) : List Family :=
  Family.arrange (r.collectors.flatMap collect)

variable [Digest]

/-- Looks at the descriptors of one collector in order. `taken` are the ids in the registry
and `own` those seen so far in the collector. -/
def examine (taken : List UInt64) :
    List UInt64 → List Descriptor → Dimensions → Dimensions × Except Rejection Unit
  | _, [], dims => (dims, .ok ())
  | own, d :: rest, dims =>
    if d.id ∈ taken then (dims, .error .alreadyRegistered)
    else if (dims.get? d.name).any (· ≠ d.dimension) then (dims, .error (.otherDimension d.name))
    else
      let dims := dims.note d.name d.dimension
      if d.id ∈ own then (dims, .error (.repeatedDescriptor d.name))
      else examine taken (d.id :: own) rest dims

/-- The registry with one more collector, or as it was but for the dimensions it now knows. -/
def register (r : Registry σ) (c : Collector σ) : Registry σ × Except Rejection Unit :=
  match examine r.ids [] c.descriptors r.dimensions with
  | (dims, .error why) => ({ r with dimensions := dims }, .error why)
  | (dims, .ok ()) =>
    if r.collectors.any (·.key = c.key) then
      ({ r with dimensions := dims }, .error .alreadyRegistered)
    else (⟨r.collectors ++ [c], r.ids ++ c.ids, dims⟩, .ok ())

/-- The registry without the collector under the key of this one, and without the ids of
this one. -/
def unregister {τ : Type} (r : Registry σ) (c : Collector τ) :
    Registry σ × Except Rejection Unit :=
  if r.collectors.any (·.key = c.key) then
    ({ r with
        collectors := r.collectors.filter (·.key ≠ c.key)
        ids := r.ids.filter (· ∉ c.ids) }, .ok ())
  else (r, .error .notRegistered)

/-- The registry without any of the collectors. A removal that is refused is passed over. -/
def unregisterEach {τ : Type} (r : Registry σ) (cs : List (Collector τ)) : Registry σ :=
  cs.foldl (fun r c => (r.unregister c).1) r

/-- Registers the collectors in order. Once one is refused, those registered before it are
removed, last one first; `before` stands for those, last one first. -/
def registerFrom (before : List (Collector Unit)) :
    Registry σ → List (Collector σ) → Registry σ × Except Rejection Unit
  | r, [] => (r, .ok ())
  | r, c :: rest =>
    match r.register c with
    | (r, .error why) => (r.unregisterEach before, .error why)
    | (r, .ok ()) => registerFrom (c.standIn :: before) r rest

/-- Registers every collector, or none of them. -/
def registerAll (r : Registry σ) (cs : List (Collector σ)) : Registry σ × Except Rejection Unit :=
  registerFrom [] r cs

end Registry

end MetricFacade
