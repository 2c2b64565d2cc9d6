import Mathlib.Logic.Function.Basic
import MetricFacade.Live.Operation

/-!
# Caches of a process

The facades of a type are found in one cache, whatever registry they are in: it belongs to the type,
and its keys are the handles. A session keeps what was created beside each registry instead. Here
the same program has its caches apart from the registries.
-/
namespace MetricFacade.Live

open Registry

/-- A registry and the instances made for it. -/
abbrev Stock := Registry Source × List Instance

def Store.stock (st : Store) : Stock :=
  (st.registry, st.instances)

/-- The stock as a store in which nothing is listed. -/
def Stock.store (stock : Stock) : Store :=
  ⟨stock.1, stock.2, {}⟩

structure Process where
  stocks : List Stock
  /-- For each handle the number of the stock that it leads to. -/
  handles : List Nat
  /-- For each facade the instances that were created, by handle. -/
  caches : Facade → Cache Handle Session.Reference

namespace Process

/-- The process of a session: what is listed there, by facade. -/
def ofSession (s : Session) : Process where
  stocks := s.stores.map (·.stock)
  handles := s.handles
  caches f := ⟨(List.range s.handles.length).filterMap fun handle =>
    (s.created? handle f).map fun r => (handle, r)⟩

def call (p : Process) (r : Session.Reference) (accessor : String) (values : List String)
    (a : Action) : Option (Process × State) := do
  let (st, state) ← (← p.stocks[r.store]?).store.call r.number accessor values a
  return ({ p with stocks := p.stocks.set r.store st.stock }, state)

def gather (p : Process) (handle : Handle) : List Family :=
  ((p.handles[handle]?.bind fun number => p.stocks[number]?).map (·.store.gather)).getD []

variable [Digest]

/-- Makes the facade with this number of stock. -/
def build (number : Nat) (f : Facade) (stock : Stock) :
    Stock × Cache.Attempt Session.Reference Rejection :=
  let (stock, attempt) := Store.build f stock
  (stock, attempt.map fun n => ⟨number, n⟩)

/-- The facade for the handle: the one in the cache of its type, or a new one. -/
def createWith (p : Process) (handle : Handle) (f : Facade) :
    Option (Process × Cache.Attempt Session.Reference Rejection) := do
  let number ← p.handles[handle]?
  let stock ← p.stocks[number]?
  let (cache, stock, attempt) := (p.caches f).obtain? handle (build number f) stock
  return (⟨p.stocks.set number stock, p.handles, Function.update p.caches f cache⟩, attempt)

def perform (p : Process) : Operation → Process × Answer
  | .create f => Operation.settle p .facade (p.createWith Session.defaultHandle f)
  | .createWith handle f => Operation.settle p .facade (p.createWith handle f)
  | .call r accessor values a => Operation.settle p .series (p.call r accessor values a)

/-- The process after the operations. -/
def after (p : Process) (ops : List Operation) : Process :=
  (Operation.carryOut perform p ops).1

/-- The operations with their answers. -/
def record (p : Process) (ops : List Operation) : Record :=
  (Operation.carryOut perform p ops).2

end Process

end MetricFacade.Live
