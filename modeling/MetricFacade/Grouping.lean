/-!
# Sorting and grouping

A stable sort by a test of what may stand before what. `groupBy` gathers the elements of a
list under their keys: the keys come out once each, ascending, and the elements under a key
keep the order of the list.
-/
namespace MetricFacade

/-! ## Sorting -/

section

variable {α : Type}

/-- With `a` before the first element that it may stand before. -/
def insertBy (le : α → α → Bool) (a : α) : List α → List α
  | [] => [a]
  | b :: rest => if le a b then a :: b :: rest else b :: insertBy le a rest

/-- The elements ascending by `le`; equal ones keep their order. -/
def sortBy (le : α → α → Bool) (xs : List α) : List α :=
  xs.foldr (insertBy le) []

end

/-! ## Grouping -/

/-- Each key once, ascending by `le`. -/
def distinctKeys {κ : Type} [DecidableEq κ] (le : κ → κ → Bool) (keys : List κ) : List κ :=
  sortBy le keys.eraseDups

/-- The elements of `xs` under their keys, keys ascending by `le`. -/
def groupBy {α κ : Type} [DecidableEq κ] (le : κ → κ → Bool) (key : α → κ) (xs : List α) :
    List (κ × List α) :=
  (distinctKeys le (xs.map key)).map fun k => (k, xs.filter fun x => key x = k)

/-- Texts ascending by code point, which is also their order by UTF-8 bytes. -/
def textLe (a b : String) : Bool :=
  a ≤ b

end MetricFacade
