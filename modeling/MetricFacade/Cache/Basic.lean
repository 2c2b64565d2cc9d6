/-!
# Caches

A cache holds one value for each key. `obtain?` returns the value that is there, or makes
one and keeps it; an attempt that fails leaves the cache as it was, so that a later one may
succeed. Entries are never removed or replaced.
-/
namespace MetricFacade

structure Cache (κ α : Type) where
  entries : List (κ × α) := []

namespace Cache

variable {κ α ε σ : Type} [DecidableEq κ]

/-- How an attempt to make a value ends. -/
inductive Attempt (α ε : Type) where
  | made (a : α)
  | failed (error : ε)
  | panicked
  deriving Repr, DecidableEq

/-- The same end, with another value. -/
def Attempt.map {α β ε : Type} (f : α → β) : Attempt α ε → Attempt β ε
  | .made a => .made (f a)
  | .failed e => .failed e
  | .panicked => .panicked

def get? (c : Cache κ α) (key : κ) : Option α :=
  (c.entries.find? fun e => e.1 = key).map (·.2)

/-- With the value under the key, in the place of one that may be there. -/
def insert (c : Cache κ α) (key : κ) (a : α) : Cache κ α :=
  ⟨c.entries.filter (fun e => e.1 ≠ key) ++ [(key, a)]⟩

def size (c : Cache κ α) : Nat :=
  c.entries.length

/-- The value under the key. If there is none, `make` is run on the state `s` to make one. -/
def obtain? (c : Cache κ α) (key : κ) (make : σ → σ × Attempt α ε) (s : σ) :
    Cache κ α × σ × Attempt α ε :=
  match c.get? key with
  | some a => (c, s, .made a)
  | none =>
    match make s with
    | (s, .made a) => (c.insert key a, s, .made a)
    | (s, attempt) => (c, s, attempt)

/-- The cache as a debugger shows it. -/
def debugText (c : Cache κ α) : String :=
  "FacadeCache \x7b len: " ++ toString c.size ++ ", .. \x7d"

end Cache

end MetricFacade
