import MetricFacade.Cache.Basic

/-!
# A cache under concurrent use

Several callers ask one cache for values. Looking up takes one step. A caller that finds
nothing waits for a lock that one caller at a time may hold, looks up once more, makes the
value, inserts it, gives the lock back and returns. Others only look at the cache: what is
under a key, how many entries there are. A schedule says who moves next; between any two
steps of one caller the others may take any number of theirs.
-/
namespace MetricFacade.Cache

/-- What a caller does next, or how its call has ended. -/
inductive Phase (α ε : Type) where
  | lookingUp
  | waiting
  /-- Looks up again, with the lock. -/
  | checking
  | making
  | inserting (a : α)
  /-- Gives the lock back. -/
  | releasing (result : Attempt α ε)
  /-- Returns, without the lock. -/
  | leaving (result : Attempt α ε)
  | returned (result : Attempt α ε)
  deriving Repr, DecidableEq

structure Caller (κ α ε : Type) where
  key : κ
  /-- How making the value ends, should this caller get to do it. -/
  attempt : Attempt α ε
  phase : Phase α ε := .lookingUp

/-- A value made, or not, by one caller for one key. -/
structure Making (κ α ε : Type) where
  caller : Nat
  key : κ
  outcome : Attempt α ε

/-- An answer to somebody who looked at the cache. -/
inductive Look (κ α : Type) where
  | entry (key : κ) (found : Option α)
  | size (n : Nat)

/-- A cache, its lock, and its callers. -/
structure Crowd (κ α ε : Type) where
  cache : Cache κ α := {}
  /-- The caller that holds the lock. -/
  holder : Option Nat := none
  callers : List (Caller κ α ε)
  /-- The attempts that have been made, in order. -/
  attempts : List (Making κ α ε) := []
  /-- The answers that were given, in order. -/
  looks : List (Look κ α) := []

/-- What happens next: a caller takes a step, or somebody looks at the cache. -/
inductive Event (κ : Type) where
  | step (i : Nat)
  | get (key : κ)
  | size

namespace Crowd

variable {κ α ε : Type} [DecidableEq κ]

/-- Callers that have not begun, each with its key and the end its attempt would come to,
and a cache with nothing in it. -/
def start (calls : List (κ × Attempt α ε)) : Crowd κ α ε where
  callers := calls.map fun (key, attempt) => { key := key, attempt := attempt }

/-- The caller moves on to the phase. -/
def move (s : Crowd κ α ε) (i : Nat) (c : Caller κ α ε) (phase : Phase α ε) : Crowd κ α ε :=
  { s with callers := s.callers.set i { c with phase := phase } }

def record (s : Crowd κ α ε) (making : Making κ α ε) : Crowd κ α ε :=
  { s with attempts := s.attempts ++ [making] }

/-- One step of caller `i`, if it can take one. -/
def step (s : Crowd κ α ε) (i : Nat) : Option (Crowd κ α ε) := do
  let c ← s.callers[i]?
  match c.phase with
  | .lookingUp =>
    match s.cache.get? c.key with
    | some a => return s.move i c (.leaving (.made a))
    | none => return s.move i c .waiting
  | .waiting =>
    if s.holder.isSome then none
    else return { s.move i c .checking with holder := some i }
  | .checking =>
    match s.cache.get? c.key with
    | some a => return s.move i c (.releasing (.made a))
    | none => return s.move i c .making
  | .making =>
    let s := s.record ⟨i, c.key, c.attempt⟩
    match c.attempt with
    | .made a => return s.move i c (.inserting a)
    | attempt => return s.move i c (.releasing attempt)
  | .inserting a =>
    return { s.move i c (.releasing (.made a)) with cache := s.cache.insert c.key a }
  | .releasing result => return { s.move i c (.leaving result) with holder := none }
  | .leaving result => return s.move i c (.returned result)
  | .returned _ => none

/-- The answer to somebody who looks at the cache now. -/
def answer (s : Crowd κ α ε) (look : Look κ α) : Crowd κ α ε :=
  { s with looks := s.looks ++ [look] }

/-- After the event. A step that cannot be taken changes nothing. -/
def next (s : Crowd κ α ε) : Event κ → Crowd κ α ε
  | .step i => (s.step i).getD s
  | .get key => s.answer (.entry key (s.cache.get? key))
  | .size => s.answer (.size s.cache.size)

def run (s : Crowd κ α ε) (schedule : List (Event κ)) : Crowd κ α ε :=
  schedule.foldl next s

/-- A schedule in which every caller takes its turn until all have returned. -/
def rounds (count : Nat) : List (Event κ) :=
  (List.replicate (6 * count + 6) ((List.range count).map .step)).flatten

/-- Everybody's call to its end, the callers taking turns. -/
def settle (s : Crowd κ α ε) : Crowd κ α ε :=
  s.run (rounds s.callers.length)

/-- The results of those that have returned. -/
def results (s : Crowd κ α ε) : List (Attempt α ε) :=
  s.callers.filterMap fun c =>
    match c.phase with
    | .returned result => some result
    | _ => none

end Crowd

end MetricFacade.Cache
