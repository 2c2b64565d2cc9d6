import MetricFacade.Cache.Concurrent

/-!
# Shared registries, and a cache keyed by where they are

A registry is shared by everybody who holds a handle to it. It lives at an address until the
last handle is dropped, and after that another registry may be made at the same address. A
handle is an address and no more; which registry it was made for is written down beside it
to be able to say so. The cache of facades knows a registry by its address alone, and each
entry holds a handle of its own.

Whoever calls the cache borrows the handle that it calls with, so that this one cannot be
dropped before the call has returned. All other handles may come and go between any two
steps of a call.
-/
namespace MetricFacade.Cache

abbrev Address := Nat

/-- A registry, named by its number in the order in which they were made, and the count of
the handles to it. -/
structure Cell where
  registry : Nat
  handles : Nat
  deriving Repr, DecidableEq

structure Memory where
  cell? : Address → Option Cell := fun _ => none
  /-- How many registries there have been. -/
  made : Nat := 0

namespace Memory

def set (m : Memory) (a : Address) (cell? : Option Cell) : Memory :=
  { m with cell? := fun b => if b = a then cell? else m.cell? b }

/-- The registry that lives at the address. -/
def registryAt? (m : Memory) (a : Address) : Option Nat :=
  (m.cell? a).map (·.registry)

def handlesAt (m : Memory) (a : Address) : Nat :=
  ((m.cell? a).map (·.handles)).getD 0

/-- With a new registry at the address and one handle to it. -/
def allocate (m : Memory) (a : Address) : Memory :=
  { m.set a (some ⟨m.made, 1⟩) with made := m.made + 1 }

/-- With one more handle to what lives at the address. -/
def retain (m : Memory) (a : Address) : Memory :=
  m.set a ((m.cell? a).map fun c => { c with handles := c.handles + 1 })

/-- With one handle less. The last one frees the address. -/
def release (m : Memory) (a : Address) : Memory :=
  m.set a ((m.cell? a).bind fun c =>
    if c.handles ≤ 1 then none else some { c with handles := c.handles - 1 })

end Memory

structure Handle where
  address : Address
  /-- The registry it was made for. -/
  registry : Nat
  deriving Repr, DecidableEq

/-- A facade, and the registry that its builder was given. -/
structure Built (α : Type) where
  facade : α
  registry? : Option Nat
  deriving Repr, DecidableEq

/-- The call has returned. -/
def Phase.over {α ε : Type} : Phase α ε → Bool
  | .returned _ => true
  | _ => false

namespace Crowd

variable {κ α ε : Type}

/-- With one more caller, who has not begun. -/
def join (s : Crowd κ α ε) (key : κ) (attempt : Attempt α ε) : Crowd κ α ε :=
  { s with callers := s.callers ++ [{ key := key, attempt := attempt }] }

/-- It is settled how making the value ends for caller `i`, which is `c`. -/
def decide (s : Crowd κ α ε) (i : Nat) (c : Caller κ α ε) (attempt : Attempt α ε) :
    Crowd κ α ε :=
  { s with callers := s.callers.set i { c with attempt := attempt } }

end Crowd

structure Call (α ε : Type) where
  /-- Where the handle is that it borrows. -/
  borrowed : Nat
  handle : Handle
  /-- How its builder ends, should it be run. -/
  ends : Attempt α ε

/-- Registries, the handles to them, and a cache of facades with its callers. -/
structure Arena (α ε : Type) where
  memory : Memory := {}
  /-- Every handle there ever was, `none` in the place of one that was dropped. -/
  handles : List (Option Handle) := []
  crowd : Crowd Address (Built α) ε := { callers := [] }
  /-- The calls of the callers, in the same order. -/
  calls : List (Call α ε) := []
  /-- The answers to those who only looked for a facade, in order. -/
  found : List (Handle × Option (Built α)) := []

namespace Arena

/-- What may happen next. Handles and callers go by their numbers. -/
inductive Act (α ε : Type) where
  | allocate (a : Address)
  | clone (i : Nat)
  | drop (i : Nat)
  /-- A look at the cache. -/
  | get (i : Nat)
  /-- A call begins that gets the facade or else builds it. -/
  | call (i : Nat) (ends : Attempt α ε)
  | step (j : Nat)

variable {α ε : Type}

/-- Handle `i`, unless it was dropped. -/
def held? (s : Arena α ε) (i : Nat) : Option Handle :=
  s.handles[i]?.join

/-- A call that has not returned borrows handle `i`. -/
def borrowed (s : Arena α ε) (i : Nat) : Bool :=
  (s.calls.zip s.crowd.callers).any fun (call, c) => call.borrowed = i && !c.phase.over

/-- What a look at the cache finds with a handle to what lives at the address. -/
def find? (s : Arena α ε) (a : Address) : Option (Built α) :=
  s.crowd.cache.get? a

/-- Caller `j` inserts its facade: the new entry takes a handle, and the one of an entry that
it replaces is dropped. -/
def insert (s : Arena α ε) (j : Nat) (key : Address) : Option (Arena α ε) := do
  let crowd ← s.crowd.step j
  let memory := s.memory.retain key
  return { s with
    crowd := crowd
    memory := if (s.find? key).isSome then memory.release key else memory }

/-- One step of caller `j`, if it can take one. A builder is given what lives at the address
when it is run. -/
def step (s : Arena α ε) (j : Nat) : Option (Arena α ε) := do
  let c ← s.crowd.callers[j]?
  let call ← s.calls[j]?
  match c.phase with
  | .making =>
    let ends := call.ends.map fun facade => ⟨facade, s.memory.registryAt? c.key⟩
    return { s with crowd := ← (s.crowd.decide j c ends).step j }
  | .inserting _ => s.insert j c.key
  | _ => return { s with crowd := ← s.crowd.step j }

/-- After the act, if it is possible. An address that is taken is not given out, and a
handle that is borrowed cannot be dropped. -/
def act (s : Arena α ε) : Act α ε → Option (Arena α ε)
  | .allocate a =>
    if (s.memory.cell? a).isSome then none
    else return { s with
      memory := s.memory.allocate a
      handles := s.handles ++ [some ⟨a, s.memory.made⟩] }
  | .clone i => do
    let h ← s.held? i
    return { s with
      memory := s.memory.retain h.address
      handles := s.handles ++ [some h] }
  | .drop i => do
    let h ← s.held? i
    if s.borrowed i then none
    else return { s with
      memory := s.memory.release h.address
      handles := s.handles.set i none }
  | .get i => do
    let h ← s.held? i
    return { s with found := s.found ++ [(h, s.find? h.address)] }
  | .call i ends => do
    let h ← s.held? i
    return { s with
      crowd := s.crowd.join h.address .panicked
      calls := s.calls ++ [⟨i, h, ends⟩] }
  | .step j => s.step j

/-- After the act. One that is impossible changes nothing. -/
def next (s : Arena α ε) (a : Act α ε) : Arena α ε :=
  (s.act a).getD s

def run (s : Arena α ε) (acts : List (Act α ε)) : Arena α ε :=
  acts.foldl next s

end Arena

end MetricFacade.Cache
