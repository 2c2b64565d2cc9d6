/-!
# JSON values

A value apart from its text. Fields of an object keep their order.
-/
namespace MetricFacade.Json

inductive Value where
  | null
  | bool (b : Bool)
  | int (n : Int)
  | double (x : Float)
  | text (s : String)
  | list (items : List Value)
  | object (fields : List (String × Value))

namespace Value

def nat (n : Nat) : Value :=
  int n

def texts (ss : List String) : Value :=
  list (ss.map text)

def doubles (xs : List Float) : Value :=
  list (xs.map double)

/-- Null for an absent value. -/
def ofOption {α : Type} (f : α → Value) : Option α → Value
  | none => null
  | some a => f a

end Value

end MetricFacade.Json
