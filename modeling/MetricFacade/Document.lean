import MetricFacade.Json.Value

/-!
# Documents as far as they can be read

A document is a tree of nodes. Readers of single formats build it from text, and whoever
gives the nodes a meaning walks it in reading order. Where a text breaks off, the tree says
so at that place and keeps everything before it; so of two defects the one that stands
first is met first, whichever of them is a matter of syntax.
-/
namespace MetricFacade

inductive Node where
  | null
  | flag (b : Bool)
  | int (n : Int)
  | double (x : Float)
  /-- A text that can be nothing else. -/
  | text (s : String)
  /-- An unquoted text, whose meaning depends on what is asked for. -/
  | plain (s : String)
  | tagged (tag : String) (node : Node)
  | dateTime
  /-- `whole` if the end of the list was found. -/
  | list (items : List Node) (whole : Bool)
  /-- `whole` if the end of the table was found. -/
  | table (entries : List (String × Node)) (whole : Bool)
  /-- Nothing that can be read. -/
  | unreadable

/-- A tree, and whether nothing but blanks and comments follow it. -/
structure Document where
  root : Node
  ended : Bool

/-- A text with nothing in it that can be read. -/
def Document.unreadable : Document :=
  ⟨.unreadable, false⟩

namespace Json

mutual

/-- The JSON value that a node stands for, if it was read to its end. -/
def Value.ofNode? : Node → Option Value
  | .null => some .null
  | .flag b => some (.bool b)
  | .int n => some (.int n)
  | .double x => some (.double x)
  | .text s => some (.text s)
  | .list items true => (valuesOfNodes? items).map .list
  | .table entries true => (fieldsOfNodes? entries).map .object
  | _ => none

def valuesOfNodes? : List Node → Option (List Value)
  | [] => some []
  | n :: ns => do return (← Value.ofNode? n) :: (← valuesOfNodes? ns)

def fieldsOfNodes? : List (String × Node) → Option (List (String × Value))
  | [] => some []
  | (key, n) :: ns => do return (key, ← Value.ofNode? n) :: (← fieldsOfNodes? ns)

end

end Json

end MetricFacade
