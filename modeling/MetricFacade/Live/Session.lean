import MetricFacade.Live.Store

/-!
# Sessions

All registries of a running program and the handles to them. The first registry is there
from the start, with a first handle: facades that name no handle are created there.
-/
namespace MetricFacade.Live

open Registry

structure Session where
  stores : List Store
  /-- For each handle the number of the store that it leads to. -/
  handles : List Nat

namespace Session

def start : Session :=
  ⟨[Store.empty], [0]⟩

/-- The handle that is there from the start. -/
def defaultHandle : Handle := 0

/-- A new registry with a handle. -/
def addRegistry (s : Session) : Session × Handle :=
  (⟨s.stores ++ [Store.empty], s.handles ++ [s.stores.length]⟩, s.handles.length)

/-- One more handle to the registry of a handle. -/
def wrap (s : Session) (handle : Handle) : Option (Session × Handle) := do
  let number ← s.handles[handle]?
  return ({ s with handles := s.handles ++ [number] }, s.handles.length)

def store? (s : Session) (handle : Handle) : Option Store := do
  s.stores[← s.handles[handle]?]?

/-- The session after something is done to the store of a handle. -/
def act {α : Type} (s : Session) (handle : Handle) (f : Store → Store × α) :
    Option (Session × α) := do
  let number ← s.handles[handle]?
  let (store, a) := f (← s.stores[number]?)
  return ({ s with stores := s.stores.set number store }, a)

/-- An instance: the number of its store and its number there. -/
structure Reference where
  store : Nat
  number : Nat
  deriving Repr, DecidableEq

/-- The instance that a facade has for the handle, if it was created. -/
def created? (s : Session) (handle : Handle) (f : Facade) : Option Reference := do
  let number ← s.handles[handle]?
  let store ← s.stores[number]?
  return ⟨number, ← store.created.get? (handle, f)⟩

variable [Digest]

/-- The facade for the handle. -/
def createWith (s : Session) (handle : Handle) (f : Facade) :
    Option (Session × Cache.Attempt Reference Rejection) := do
  let store ← s.handles[handle]?
  let (s, attempt) ← s.act handle fun st => st.create handle f
  return (s, match attempt with
    | .made number => .made ⟨store, number⟩
    | .failed why => .failed why
    | .panicked => .panicked)

/-- The facade for the handle that is there from the start. -/
def create (s : Session) (f : Facade) : Option (Session × Cache.Attempt Reference Rejection) :=
  s.createWith defaultHandle f

def call (s : Session) (r : Reference) (accessor : String) (values : List String) (a : Action) :
    Option (Session × State) := do
  let (store, state) ← (← s.stores[r.store]?).call r.number accessor values a
  return ({ s with stores := s.stores.set r.store store }, state)

def gather (s : Session) (handle : Handle) : List Family :=
  ((s.store? handle).map (·.gather)).getD []

end Session

end MetricFacade.Live
