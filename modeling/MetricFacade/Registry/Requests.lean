import MetricFacade.Registry.Basic

/-!
# Requests to a registry

What may be asked of a registry, and the answers to requests made one after another. The
answers are all that is seen of a registry from outside, its collectors apart.
-/
namespace MetricFacade.Registry

inductive Request (σ : Type) where
  | register (c : Collector σ)
  | unregister (c : Collector σ)
  | registerAll (cs : List (Collector σ))

variable {σ : Type}

/-- The descriptors that come with what is to be registered. -/
def Request.offered : Request σ → List Descriptor
  | register c => c.descriptors
  | unregister _ => []
  | registerAll cs => cs.flatMap (·.descriptors)

variable [Digest]

/-- The registry after a request, and its answer. -/
def answer (r : Registry σ) : Request σ → Registry σ × Except Rejection Unit
  | .register c => r.register c
  | .unregister c => r.unregister c
  | .registerAll cs => r.registerAll cs

/-- The answers to requests made one after another. -/
def answers (r : Registry σ) : List (Request σ) → List (Except Rejection Unit)
  | [] => []
  | q :: rest => (r.answer q).2 :: answers (r.answer q).1 rest

end MetricFacade.Registry
