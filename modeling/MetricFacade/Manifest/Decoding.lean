import MetricFacade.Document
import MetricFacade.Manifest.Basic
import MetricFacade.Yaml.Scalar

/-!
# From documents to manifests

The fields of a record are taken in the order in which they stand, and the first defect
ends the reading; only when the record is at its end are missing fields noticed. Whatever is
wrong in another way than with the name of a field or of a variant is malformed. Formats differ
in which shapes stand for a record or a variant: the dialect says so.
-/
namespace MetricFacade.Manifest

/-- What keeps a document from being a manifest. -/
inductive Fault where
  | malformed
  | missingField (name : String)
  | unknownField (name : String)
  | unknownVariant (name : String)
  | duplicateField (name : String)
  deriving Repr, DecidableEq

def Fault.message : Fault → String
  | malformed => "malformed"
  | missingField name => "missing field `" ++ name ++ "`"
  | unknownField name => "unknown field `" ++ name ++ "`"
  | unknownVariant name => "unknown variant `" ++ name ++ "`"
  | duplicateField name => "duplicate field `" ++ name ++ "`"

abbrev Read (α : Type) := Except Fault α

/-- Which shapes a format accepts besides the usual ones. -/
structure Dialect where
  /-- A list may stand for a record, its items for the fields in order. -/
  positional : Bool
  /-- What may stand behind the name of a variant in a table, if a table may stand for one. -/
  variantBody : Option (Node → Bool)
  /-- A table for a variant is refused for its size before its name is looked at. -/
  sizeFirst : Bool

namespace Dialect

def isNull : Node → Bool
  | .null => true
  | _ => false

def isEmptyBody : Node → Bool
  | .list [] true => true
  | .table [] true => true
  | _ => false

def json : Dialect := ⟨true, some isNull, false⟩

def toml : Dialect := ⟨true, some isEmptyBody, true⟩

def yaml : Dialect := ⟨false, none, false⟩

end Dialect

/-! ## Values -/

/-- The node without its tags. -/
def untagged : Node → Node
  | .tagged _ node => untagged node
  | node => node

def textOf (node : Node) : Read String :=
  match untagged node with
  | .text s | .plain s => .ok s
  | _ => .error .malformed

def isAbsent (node : Node) : Bool :=
  match untagged node with
  | .null => true
  | .plain s => Yaml.isNullWord s
  | _ => false

/-- The tag that says of a scalar that it is a null. -/
def nullTag : String := "tag:yaml.org,2002:null"

/-- Absent, or what `read` makes of the node. A tag keeps an unquoted null from being one,
unless it is the tag of nulls. -/
def optionalOf {α : Type} (read : Node → Read α) (node : Node) : Read (Option α) :=
  match node with
  | .tagged tag (.plain s) =>
    if tag ≠ nullTag then (read node).map some
    else if !s.isEmpty ∧ Yaml.isNullWord s then .ok none
    else .error .malformed
  | _ => if isAbsent node then .ok none else (read node).map some

/-- Whole numbers become doubles within the range of 64 bits, with or without a sign. -/
def doubleOfInt (n : Int) : Read Float :=
  if -(Nat.pow 2 63 : Int) ≤ n ∧ n < Nat.pow 2 64 then
    let magnitude := (Number.Decimal.mk n.natAbs 0).nearest
    .ok (if n < 0 then -magnitude else magnitude)
  else .error .malformed

def doubleOf (node : Node) : Read Float :=
  match untagged node with
  | .int n => doubleOfInt n
  | .double x => .ok x
  | .plain s =>
    match Yaml.double? s with
    | some x => .ok x
    | none => .error .malformed
  | _ => .error .malformed

def countOf (node : Node) : Read Nat :=
  match untagged node with
  | .int n => if 0 ≤ n ∧ n < Nat.pow 2 64 then .ok n.toNat else .error .malformed
  | .plain s =>
    match Yaml.count? s with
    | some n => .ok n
    | none => .error .malformed
  | _ => .error .malformed

/-- The items in order; an empty unquoted text is an empty list. -/
def listOf {α : Type} (read : Node → Read α) (node : Node) : Read (List α) :=
  match untagged node with
  | .list items whole => do
    let values ← items.mapM read
    if whole then .ok values else .error .malformed
  | .plain s => if s.isEmpty then .ok [] else .error .malformed
  | _ => .error .malformed

/-- One of a few named variants. -/
def variantOf {α : Type} (dialect : Dialect) (ofText? : String → Option α) (node : Node) :
    Read α :=
  let named (s : String) : Read α :=
    match ofText? s with
    | some a => .ok a
    | none => .error (.unknownVariant s)
  match node with
  | .text s | .plain s => named s
  | .tagged tag body => do
    let a ← named tag
    if isAbsent body then .ok a else .error .malformed
  | .table ((key, body) :: rest) whole =>
    match dialect.variantBody with
    | none => .error .malformed
    | some isBody =>
      if dialect.sizeFirst ∧ !rest.isEmpty then .error .malformed
      else do
        let a ← named key
        if isBody body ∧ rest.isEmpty ∧ whole then .ok a else .error .malformed
  | _ => .error .malformed

/-! ## Records -/

/-- The fields of a record as they stand in a document. -/
structure Fields where
  entries : List (String × Node)
  whole : Bool
  /-- The fields are told by their places and not by their names. -/
  positional : Bool

/-- The one field that a date shows where a record is asked for. -/
def dateTimeKey : String := "$__toml_private_datetime"

def fieldsOf (dialect : Dialect) (names : List String) (node : Node) : Read Fields :=
  match untagged node with
  | .table entries whole => .ok ⟨entries, whole, false⟩
  | .list items whole =>
    if dialect.positional then
      .ok ⟨names.zip items, whole && items.length ≤ names.length, true⟩
    else .error .malformed
  | .plain s => if s.isEmpty then .ok ⟨[], true, false⟩ else .error .malformed
  | .dateTime => .ok ⟨[(dateTimeKey, .null)], true, false⟩
  | _ => .error .malformed

/-- The record after the entries, each given to `step`. `seen` are the names so far. -/
def stepEntries {ρ : Type} (names : List String) (step : String → Node → ρ → Read ρ) :
    List String → List (String × Node) → ρ → Read ρ
  | _, [], record => .ok record
  | seen, (name, node) :: rest, record =>
    if name ∉ names then .error (.unknownField name)
    else if name ∈ seen then .error (.duplicateField name)
    else do stepEntries names step (name :: seen) rest (← step name node record)

/-- The record of a node: its fields, taken in order, and then `finish`, which is told how to
complain of a missing field. -/
def recordOf {ρ α : Type} (dialect : Dialect) (names : List String)
    (step : String → Node → ρ → Read ρ) (start : ρ)
    (finish : (String → Fault) → ρ → Read α) (node : Node) : Read α := do
  let fields ← fieldsOf dialect names node
  let record ← stepEntries names step [] fields.entries start
  if !fields.whole then .error .malformed
  else finish (fun name => if fields.positional then .malformed else .missingField name) record

/-- A field that has to be there. -/
def required {α : Type} (missing : String → Fault) (name : String) : Option α → Read α
  | some a => .ok a
  | none => .error (missing name)

/-- The parameters of a formulaic ladder, as far as they are known. -/
structure Formula where
  start : Option Float := none
  second : Option Float := none
  count : Option Nat := none

/-- The parameters of a formulaic ladder, `second` being the name of the one that is a
factor or a width. -/
def formulaOf {α : Type} (dialect : Dialect) (second : String)
    (make : Float → Float → Nat → α) (node : Node) : Read α :=
  recordOf dialect ["start", second, "count"]
    (fun name node (f : Formula) => do
      if name = "start" then return { f with start := some (← doubleOf node) }
      else if name = second then return { f with second := some (← doubleOf node) }
      else return { f with count := some (← countOf node) })
    {}
    (fun missing f => do
      let start ← required missing "start" f.start
      let second ← required missing second f.second
      let count ← required missing "count" f.count
      return make start second count)
    node

def optionsOf (dialect : Dialect) (node : Node) : Read Options :=
  recordOf dialect ["bucket_policy", "runtime_crate"]
    (fun name node (o : Options) => do
      if name = "bucket_policy" then
        return { o with bucketPolicy := ← variantOf dialect BucketPolicy.ofText? node }
      else return { o with runtimeCrate := ← optionalOf textOf node })
    {} (fun _ o => .ok o) node

/-- An entry of which the required fields may still be unknown. -/
structure EntryDraft where
  ident : Option String := none
  kind : Option Metric.Kind := none
  /-- The other fields; its `ident` and `kind` say nothing. -/
  rest : Entry := { ident := "", kind := .counter }

def entryFields : List String :=
  ["namespace", "ident", "type", "name", "help", "labels", "buckets", "exponential_buckets",
   "linear_buckets"]

def entryStep (dialect : Dialect) (name : String) (node : Node) (d : EntryDraft) :
    Read EntryDraft := do
  match name with
  | "namespace" => return { d with rest := { d.rest with scope := ← textOf node } }
  | "ident" => return { d with ident := some (← textOf node) }
  | "type" => return { d with kind := some (← variantOf dialect Metric.Kind.ofText? node) }
  | "name" => return { d with rest := { d.rest with name := ← optionalOf textOf node } }
  | "help" => return { d with rest := { d.rest with help := ← optionalOf textOf node } }
  | "labels" => return { d with rest := { d.rest with labels := ← listOf textOf node } }
  | "buckets" =>
    return { d with rest := { d.rest with buckets := ← optionalOf (listOf doubleOf) node } }
  | "exponential_buckets" =>
    let formula := formulaOf dialect "factor" ExponentialBuckets.mk
    return { d with rest := { d.rest with exponential := ← optionalOf formula node } }
  | _ =>
    let formula := formulaOf dialect "width" LinearBuckets.mk
    return { d with rest := { d.rest with linear := ← optionalOf formula node } }

def entryOf (dialect : Dialect) (node : Node) : Read Entry :=
  recordOf dialect entryFields (entryStep dialect) {}
    (fun missing d => do
      let ident ← required missing "ident" d.ident
      let kind ← required missing "type" d.kind
      return { d.rest with ident := ident, kind := kind })
    node

def manifestOf (dialect : Dialect) (node : Node) : Read Manifest :=
  recordOf dialect ["options", "metric"]
    (fun name node (m : Manifest) => do
      if name = "options" then return { m with options := ← optionsOf dialect node }
      else return { m with metrics := ← listOf (entryOf dialect) node })
    {} (fun _ m => .ok m) node

/-- The manifest of a document. That the text goes on behind the tree is noticed last. -/
def ofDocument (dialect : Dialect) (d : Document) : Read Manifest := do
  let m ← manifestOf dialect d.root
  if d.ended then .ok m else .error .malformed

end MetricFacade.Manifest
