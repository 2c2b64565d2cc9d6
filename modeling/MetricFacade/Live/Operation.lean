import MetricFacade.Live.Session

/-!
# Operations on facades

What the owner of some facades does: asks for a facade, in the registry that is there from the
start or in another one, and acts on a series through an accessor of a facade that was given. Each
operation is addressed to the facades of one registry.
-/
namespace MetricFacade.Live

open Registry

inductive Operation where
  | create (f : Facade)
  | createWith (handle : Handle) (f : Facade)
  | call (r : Session.Reference) (accessor : String) (values : List String) (a : Action)

/-- What comes of an operation, if it could be done at all. -/
inductive Answer where
  | facade (outcome : Option (Cache.Attempt Session.Reference Rejection))
  | series (state : Option State)

/-- Operations in order, each with its answer. -/
abbrev Record := List (Operation × Answer)

namespace Operation

/-- The handle and the facade that are asked for. -/
def asked? : Operation → Option (Handle × Facade)
  | create f => some (Session.defaultHandle, f)
  | createWith handle f => some (handle, f)
  | call .. => none

/-- The number of the registry whose facades are addressed. -/
def registry? (handles : List Nat) : Operation → Option Nat
  | create _ => handles[Session.defaultHandle]?
  | createWith handle _ => handles[handle]?
  | call r .. => some r.store

def addresses (handles : List Nat) (number : Nat) (op : Operation) : Bool :=
  op.registry? handles = some number

/-- What something has led to, and the answer. What could not be done changes nothing. -/
def settle {σ α : Type} (s : σ) (answer : Option α → Answer) (result : Option (σ × α)) : σ × Answer :=
  ((result.map (·.1)).getD s, answer (result.map (·.2)))

/-- Carries out the operations in order. -/
def carryOut {σ : Type} (step : σ → Operation → σ × Answer) : σ → List Operation → σ × Record
  | s, [] => (s, [])
  | s, op :: rest =>
    let (s, answer) := step s op
    let (s, record) := carryOut step s rest
    (s, (op, answer) :: record)

/-- The action that was carried out on a series of metric `k` of an instance of `f`, the one that
these label values lead to. -/
def update? (f : Facade) (r : Session.Reference) (k : Nat) (values : List String) :
    Operation × Answer → Option Action
  | (call r' accessor values' a, .series (some _)) =>
    if r' = r ∧ f.metrics.findIdx? (Instance.answersTo accessor) = some k ∧
        Instrument.seriesKey values = Instrument.seriesKey values' then some a
    else none
  | _ => none

/-- The actions on a series, through whatever handle. -/
def updates (f : Facade) (r : Session.Reference) (k : Nat) (values : List String)
    (record : Record) : List Action :=
  record.filterMap (update? f r k values)

end Operation

/-- What an action makes of a series of a metric, which begins with its first action. -/
def State.next (m : Metric.Resolved) (state : Option State) (a : Action) : Option State :=
  let bounds := (Instrument.mk m []).bounds
  some ((state.getD (.start m.kind bounds)).after bounds a)

/-- The state of a series of metric `k`. -/
def Instance.state? (x : Instance) (k : Nat) (values : List String) : Option State := do
  (← x.instruments[k]?).state? values

namespace Session

/-- The instance of a reference. -/
def instance? (s : Session) (r : Reference) : Option Instance := do
  (← s.stores[r.store]?).instances[r.number]?

/-- The instance of a reference to the facade, as it is made if it is not there yet. -/
def instanceOf (s : Session) (f : Facade) (r : Reference) : Instance :=
  (s.instance? r).getD (.ofFacade f)

variable [Digest]

def perform (s : Session) : Operation → Session × Answer
  | .create f => Operation.settle s .facade (s.create f)
  | .createWith handle f => Operation.settle s .facade (s.createWith handle f)
  | .call r accessor values a => Operation.settle s .series (s.call r accessor values a)

/-- The session after the operations. -/
def after (s : Session) (ops : List Operation) : Session :=
  (Operation.carryOut perform s ops).1

/-- The operations with their answers. -/
def record (s : Session) (ops : List Operation) : Record :=
  (Operation.carryOut perform s ops).2

end Session

end MetricFacade.Live
