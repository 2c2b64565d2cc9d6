import MetricFacade.Document
import MetricFacade.Grouping

/-!
# The tree of a TOML document

A tree grows by three steps: a key gets a value, a header opens a table, a header adds a
table to an array of tables. Each table remembers how it came about, because that decides
whether it may be opened once more: a table that only led to another one may be opened by a
header of its own; a table made by dotted keys may get further dotted keys and nothing
else; a table that had its header is closed to both. Values, written tables and written
lists included, never grow.
-/
namespace MetricFacade.Toml

/-- How a table came about. -/
inductive Origin where
  /-- It lies on the way of a header to a deeper table. -/
  | onTheWay
  /-- Dotted keys made it. -/
  | dotted
  /-- It has a header of its own, or it is the outermost table. -/
  | header
  deriving Repr, DecidableEq

inductive Item where
  | value (node : Node)
  | table (origin : Origin) (entries : List (String × Item))
  /-- An array of tables: those before the last one, and the last one, which still grows. -/
  | tables (earlier : List (List (String × Item))) (last : List (String × Item))

abbrev Entries := List (String × Item)

namespace Entries

def get? (entries : Entries) (key : String) : Option Item :=
  (entries.find? fun e => e.1 = key).map (·.2)

/-- The entries with this item under the key, in its old place if it had one. -/
def put (entries : Entries) (key : String) (item : Item) : Entries :=
  if entries.any fun e => e.1 = key then
    entries.map fun e => if e.1 = key then (key, item) else e
  else entries ++ [(key, item)]

/-- The entries after `step` has worked on the table at the end of the path. Tables missing
on the way are made, with the origin `made`. Dotted keys do not enter a table that has a
header. `origin` is that of the table with these entries. -/
def atPath (made : Origin) (step : Origin → Entries → Option Entries) :
    List String → Origin → Entries → Option Entries
  | [], origin, entries => step origin entries
  | key :: path, _, entries =>
    match entries.get? key with
    | none => do
      let inner ← atPath made step path made []
      return entries.put key (.table made inner)
    | some (.table origin inner) =>
      if made = .dotted ∧ origin = .header then none
      else do
        let inner ← atPath made step path origin inner
        return entries.put key (.table origin inner)
    | some (.tables earlier last) => do
      let last ← atPath made step path .header last
      return entries.put key (.tables earlier last)
    | some (.value _) => none

/-- A value under a key that is still free. Behind dotted keys the table must be one that
dotted keys made. -/
def setKey (dotted : Bool) (key : String) (node : Node) (origin : Origin) (entries : Entries) :
    Option Entries :=
  if (origin = .dotted) ≠ dotted then none
  else if (entries.get? key).isSome then none
  else some (entries.put key (.value node))

/-- A value under the dotted key `path . key`. -/
def setDotted (path : List String) (key : String) (node : Node) (origin : Origin)
    (entries : Entries) : Option Entries :=
  atPath .dotted (setKey (!path.isEmpty) key node) path origin entries

/-- The table that a header opens. -/
def openTable (key : String) (_ : Origin) (entries : Entries) : Option Entries :=
  match entries.get? key with
  | none => some (entries.put key (.table .header []))
  | some (.table .onTheWay inner) => some (entries.put key (.table .header inner))
  | some _ => none

/-- One more table in an array of tables. -/
def addTable (key : String) (_ : Origin) (entries : Entries) : Option Entries :=
  match entries.get? key with
  | none => some (entries.put key (.tables [] []))
  | some (.tables earlier last) => some (entries.put key (.tables (earlier ++ [last]) []))
  | some _ => none

end Entries

/-- Entries ascending by key. -/
def sortEntries {α : Type} (entries : List (String × α)) : List (String × α) :=
  sortBy (fun a b => textLe a.1 b.1) entries

mutual

/-- The node of an item, the entries of tables ascending by key. -/
def Item.node : Item → Node
  | .value node => node
  | .table _ entries => .table (sortEntries (entryNodes entries)) true
  | .tables earlier last =>
    .list (tableNodes earlier ++ [.table (sortEntries (entryNodes last)) true]) true

def entryNodes : List (String × Item) → List (String × Node)
  | [] => []
  | (key, item) :: rest => (key, item.node) :: entryNodes rest

def tableNodes : List (List (String × Item)) → List Node
  | [] => []
  | entries :: rest => .table (sortEntries (entryNodes entries)) true :: tableNodes rest

end

/-- The node of a table with these entries. -/
def Entries.node (entries : Entries) : Node :=
  .table (sortEntries (entryNodes entries)) true

end MetricFacade.Toml
