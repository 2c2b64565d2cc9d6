import MetricFacade.Grouping
import MetricFacade.Metric.Declaration
import MetricFacade.Rust.Ident
import MetricFacade.Violation

/-!
# Members

Within a namespace the accessors have different names, so have the fields, and neither
take the name of a constructor of the facade. Accessors are looked at before fields. A
clash with the same sites as one already reported is left out, so that two identifiers
that clash as accessors are not reported again as fields.
-/
namespace MetricFacade.Check

open MetricFacade.Metric

/-- The constructors that every facade defines. -/
def reservedMembers : List String :=
  ["create", "create_with_registry"]

structure Member where
  scope : String
  name : String
  deriving Repr, DecidableEq

namespace Member

def path (m : Member) : String :=
  m.scope ++ "::" ++ m.name

def le (a b : Member) : Bool :=
  textLe a.path b.path

end Member

def accessorOf (d : Declaration) : Member :=
  ⟨d.scope, Rust.Ident.member d.ident⟩

def fieldOf (d : Declaration) : Member :=
  ⟨d.scope, Rust.Ident.member (d.ident ++ d.kind.name)⟩

/-- The members under one view of the declarations, with their sites, by ascending path. -/
def memberSites (view : Declaration → Member) (ds : List Declaration) :
    List (Member × List String) :=
  (groupBy Member.le view ds).map fun (member, users) => (member, users.map (·.site))

/-- Several declarations define the member, or it is reserved. -/
def isClash (member : Member) (sites : List String) : Bool :=
  2 ≤ sites.length || member.name ∈ reservedMembers

/-- The clashes whose sites are not among those `reported` before. -/
def clashes : List (List String) → List (Member × List String) → List Violation
  | _, [] => []
  | reported, (member, sites) :: rest =>
    if isClash member sites ∧ sites ∉ reported then
      ⟨.duplicateMember member.scope member.name, sites⟩ :: clashes (sites :: reported) rest
    else clashes reported rest

def duplicateMembers (ds : List Declaration) : List Violation :=
  clashes [] (memberSites accessorOf ds ++ memberSites fieldOf ds)

end MetricFacade.Check
