import MetricFacade.Proofs.Catalog
import MetricFacade.Proofs.Json.Numbers
import MetricFacade.Proofs.Json.Reading
import MetricFacade.Proofs.Rust.Checked

/-!
# Descriptions tell facades apart

The description is written for other programs, so what counts is what such a program finds in it.
An account is that much of a facade; a reader of accounts looks the fields up by their keys.

Results:

* `read_ofFacades`: the value that is written holds the account of every facade.
* `finite_of_compile`: what compiles has finite bucket numbers, under either policy.
* `description_faithful`: which facades have a description, whatever takes the identifiers; and the
  text gives back the accounts, so facades with other accounts have another text.
-/
namespace MetricFacade.Description

open Json MetricFacade.Metric

/-! ## Accounts -/

/-- The parameters of a formulaic ladder. -/
inductive Params where
  | exponential (start factor : Float) (count : Nat)
  | linear (start width : Float) (count : Nat)
  deriving DecidableEq

structure BucketAccount where
  kind : Bucket.Kind
  params : Option Params
  bounds : List Float
  deriving DecidableEq

structure MetricAccount where
  name : String
  kind : Kind
  help : String
  labels : List String
  accessor : String
  field : String
  buckets : Option BucketAccount
  deriving DecidableEq

structure FacadeAccount where
  scope : String
  typeName : String
  metrics : List MetricAccount
  deriving DecidableEq

def accountParams : Bucket.Spec → Option Params
  | .exponential start factor count => some (.exponential start factor count)
  | .linear start width count => some (.linear start width count)
  | .explicit _ | .standard => none

def accountBuckets (spec : Bucket.Spec) : BucketAccount :=
  ⟨spec.kind, accountParams spec, spec.bounds⟩

/-- A metric as others see it: its identifiers are those of the source text. -/
def accountMetric (m : Resolved) : MetricAccount where
  name := m.name
  kind := m.kind
  help := m.help
  labels := m.labels
  accessor := Rust.Ident.writtenMember m.accessor
  field := Rust.Ident.writtenMember m.field
  buckets := m.buckets.map accountBuckets

def accountNamed (f : NamedFacade) : FacadeAccount :=
  ⟨f.scope, f.typeName, f.metrics.map accountMetric⟩

def account (f : Facade) : FacadeAccount :=
  accountNamed f.named

/-! ## Reading accounts -/

def lookup (key : String) : Value → Option Value
  | .object fields => fields.lookup key
  | _ => none

def readText : Value → Option String
  | .text s => some s
  | _ => none

def readCount : Value → Option Nat
  | .int (.ofNat n) => some n
  | _ => none

def readNumber : Value → Option Float
  | .double x => some x
  | _ => none

def readList {α : Type} (read : Value → Option α) : Value → Option (List α)
  | .list items => items.mapM read
  | _ => none

/-- Null for nothing. -/
def readOption {α : Type} (read : Value → Option α) : Value → Option (Option α)
  | .null => some none
  | v => (read v).map some

def readKind (v : Value) : Option Kind := do
  let s ← readText v
  Kind.all.find? fun k => k.tag = s

def readBucketKind (v : Value) : Option Bucket.Kind := do
  let s ← readText v
  [.explicit, .exponential, .linear, .standard].find? fun k => Bucket.Kind.name k = s

/-- A formulaic ladder has its parameters, any other has null in their place. -/
def readParams (kind : Bucket.Kind) (v : Value) : Option (Option Params) :=
  match kind with
  | .exponential => do
    let start ← readNumber (← lookup "start" v)
    let factor ← readNumber (← lookup "factor" v)
    let count ← readCount (← lookup "count" v)
    return some (.exponential start factor count)
  | .linear => do
    let start ← readNumber (← lookup "start" v)
    let width ← readNumber (← lookup "width" v)
    let count ← readCount (← lookup "count" v)
    return some (.linear start width count)
  | .explicit | .standard =>
    match v with
    | .null => some none
    | _ => none

def readBuckets (v : Value) : Option BucketAccount := do
  let kind ← readBucketKind (← lookup "kind" v)
  let params ← readParams kind (← lookup "params" v)
  let bounds ← readList readNumber (← lookup "bounds" v)
  return ⟨kind, params, bounds⟩

def readMetric (v : Value) : Option MetricAccount := do
  let name ← readText (← lookup "name" v)
  let kind ← readKind (← lookup "type" v)
  let help ← readText (← lookup "help" v)
  let labels ← readList readText (← lookup "labels" v)
  let accessor ← readText (← lookup "accessor" v)
  let field ← readText (← lookup "field" v)
  let buckets ← readOption readBuckets (← lookup "buckets" v)
  return ⟨name, kind, help, labels, accessor, field, buckets⟩

def readFacade (v : Value) : Option FacadeAccount := do
  let scope ← readText (← lookup "namespace" v)
  let typeName ← readText (← lookup "type_name" v)
  let metrics ← readList readMetric (← lookup "metrics" v)
  return ⟨scope, typeName, metrics⟩

/-- The accounts in a description. -/
def readFacades (v : Value) : Option (List FacadeAccount) := do
  readList readFacade (← lookup "facades" v)

/-- What is written for every item is read back item by item. -/
theorem readList_map {α β : Type} {read : Value → Option β} {write : α → Value} {meant : α → β}
    (h : ∀ a, read (write a) = some (meant a)) (as : List α) :
    readList read (.list (as.map write)) = some (as.map meant) := by
  rw [readList]
  induction as with
  | nil => rfl
  | cons a as ih => simp [h, ih]

theorem readBucketKind_name (kind : Bucket.Kind) : readBucketKind (.text kind.name) = some kind := by
  cases kind <;> rfl

theorem readKind_tag (kind : Kind) : readKind (.text kind.tag) = some kind := by
  cases kind <;> rfl

theorem readParams_params (spec : Bucket.Spec) :
    readParams spec.kind (params spec) = some (accountParams spec) := by
  cases spec <;> rfl

theorem readList_doubles (xs : List Float) : readList readNumber (.doubles xs) = some xs := by
  have hread := @readList_map _ _ readNumber Value.double id (fun _ => rfl) xs
  rwa [List.map_id] at hread

theorem readList_texts (ss : List String) : readList readText (.texts ss) = some ss := by
  have hread := @readList_map _ _ readText Value.text id (fun _ => rfl) ss
  rwa [List.map_id] at hread

theorem readBuckets_ofBuckets (spec : Bucket.Spec) :
    readBuckets (ofBuckets spec) = some (accountBuckets spec) := by
  change (do
    let kind ← readBucketKind (.text spec.kind.name)
    let params ← readParams kind (params spec)
    let bounds ← readList readNumber (.doubles spec.bounds)
    return (⟨kind, params, bounds⟩ : BucketAccount)) = _
  simp only [readBucketKind_name, readList_doubles, Option.bind_eq_bind, Option.bind_some,
    readParams_params]
  rfl

theorem readOption_ofBuckets (buckets : Option Bucket.Spec) :
    readOption readBuckets (.ofOption ofBuckets buckets) = some (buckets.map accountBuckets) := by
  cases buckets with
  | none => rfl
  | some spec =>
    change (readBuckets (ofBuckets spec)).map some = _
    rw [readBuckets_ofBuckets]
    rfl

theorem readMetric_ofMetric (m : Resolved) : readMetric (ofMetric m) = some (accountMetric m) := by
  change (do
    let kind ← readKind (.text m.kind.tag)
    let labels ← readList readText (.texts m.labels)
    let buckets ← readOption readBuckets (.ofOption ofBuckets m.buckets)
    return (⟨m.name, kind, m.help, labels, Rust.Ident.writtenMember m.accessor,
      Rust.Ident.writtenMember m.field, buckets⟩ : MetricAccount)) = _
  rw [readKind_tag, readList_texts, readOption_ofBuckets]
  rfl

theorem readFacade_ofFacade (f : NamedFacade) : readFacade (ofFacade f) = some (accountNamed f) := by
  change (do
    let metrics ← readList readMetric (.list (f.metrics.map ofMetric))
    return (⟨f.scope, f.typeName, metrics⟩ : FacadeAccount)) = _
  rw [readList_map readMetric_ofMetric]
  rfl

theorem read_ofFacades (fs : List NamedFacade) :
    readFacades (ofFacades fs) = some (fs.map accountNamed) :=
  readList_map readFacade_ofFacade fs

/-! ## Finite numbers -/

/-- The doubles in the description of a specification. -/
def numbers (spec : Bucket.Spec) : List Float :=
  spec.bounds ++ match spec with
    | .exponential start factor _ => [start, factor]
    | .linear start width _ => [start, width]
    | .explicit _ | .standard => []

def FiniteNumbers (fs : List NamedFacade) : Prop :=
  ∀ f ∈ fs, ∀ m ∈ f.metrics, ∀ spec ∈ m.buckets, ∀ x ∈ numbers spec, x.isFinite

theorem finite_numbers_of_sound {spec : Bucket.Spec} (h : spec.Sound) : ∀ x ∈ numbers spec, x.isFinite := by
  cases spec with
  | explicit values => simpa [numbers, Bucket.Spec.bounds] using h.2.1
  | exponential start factor count =>
    obtain ⟨-, ⟨hstart, -⟩, ⟨hfactor, -⟩, hbounds, -⟩ := h
    simp only [numbers, Bucket.Spec.bounds, List.forall_mem_append]
    exact ⟨hbounds, by simp [hstart, hfactor]⟩
  | linear start width count =>
    obtain ⟨-, hstart, ⟨hwidth, -⟩, hbounds, -⟩ := h
    simp only [numbers, Bucket.Spec.bounds, List.forall_mem_append]
    exact ⟨hbounds, by simp [hstart, hwidth]⟩
  | standard => simpa [numbers, Bucket.Spec.bounds] using Bucket.rising_standardLadder.1

/-- Facades that come from declarations have finite numbers, whatever the policy. -/
theorem finite_of_compile {policy : BucketPolicy} {ds : List Declaration} {fs : List Facade}
    (h : compile policy ds = .ok fs) : FiniteNumbers (fs.map Facade.named) := by
  obtain ⟨rfl, -, hsound⟩ := compile_ok h
  refine List.forall_mem_map.2 fun f hf m (hm : m ∈ f.metrics) spec hspec => ?_
  rw [(mem_facades.1 hf).2] at hm
  obtain ⟨d, hd, rfl⟩ := List.mem_map.1 hm
  exact finite_numbers_of_sound (hsound d (List.mem_filter.1 hd).1 spec hspec)

theorem finite_doubles {xs : List Float} (h : ∀ x ∈ xs, x.isFinite) : (Value.doubles xs).Finite := by
  simpa [Value.doubles, Value.Finite, finiteItems_iff] using h

theorem finite_texts (ss : List String) : (Value.texts ss).Finite := by
  simp [Value.texts, Value.Finite, finiteItems_iff]

theorem finite_ofBuckets {spec : Bucket.Spec} (h : ∀ x ∈ numbers spec, x.isFinite) :
    (ofBuckets spec).Finite := by
  obtain ⟨hbounds, hparams⟩ := List.forall_mem_append.1 h
  refine ⟨finite_doubles hbounds, trivial, ?_, trivial⟩
  cases spec with
  | explicit values => trivial
  | exponential start factor count =>
    exact ⟨trivial, hparams factor (by simp), hparams start (by simp), trivial⟩
  | linear start width count =>
    exact ⟨trivial, hparams start (by simp), hparams width (by simp), trivial⟩
  | standard => trivial

theorem finite_ofMetric {m : Resolved} (h : ∀ spec ∈ m.buckets, ∀ x ∈ numbers spec, x.isFinite) :
    (ofMetric m).Finite := by
  have hbuckets : (Value.ofOption ofBuckets m.buckets).Finite := by
    cases hm : m.buckets with
    | none => trivial
    | some spec => exact finite_ofBuckets (h spec hm)
  exact ⟨trivial, hbuckets, trivial, trivial, finite_texts m.labels, trivial, trivial, trivial⟩

theorem finite_ofFacades {fs : List NamedFacade} (h : FiniteNumbers fs) : (ofFacades fs).Finite := by
  refine ⟨finiteItems_iff.2 ?_, trivial⟩
  intro v hv
  obtain ⟨f, hf, rfl⟩ := List.mem_map.1 hv
  refine ⟨finiteItems_iff.2 ?_, trivial, trivial, trivial⟩
  intro v hv
  obtain ⟨m, hm, rfl⟩ := List.mem_map.1 hv
  exact finite_ofMetric (h f hf m hm)

/-! ## The text -/

theorem parse?_source {number : Bool → NumberParts → Node} (hnumber : Inverse number)
    {fs : List NamedFacade} (h : FiniteNumbers fs) :
    parse? number (source fs) = some (ofFacades fs) :=
  parse?_indented hnumber (finite_ofFacades h)

example : source [⟨⟨"a", []⟩, "Metrics"⟩] =
    "\x7b\n  \"facades\": [\n    \x7b\n      \"metrics\": [],\n      \"namespace\": \"a\",\n"
      ++ "      \"type_name\": \"Metrics\"\n    \x7d\n  ]\n\x7d\n" := by
  decide +kernel

/-- The accounts are in the text, for every reader that takes numbers for what was written. -/
theorem read_source {number : Bool → NumberParts → Node} (hnumber : Inverse number)
    {fs : List NamedFacade} (h : FiniteNumbers fs) :
    (parse? number (source fs)).bind readFacades = some (fs.map accountNamed) := by
  rw [parse?_source hnumber h, Option.bind_some, read_ofFacades]

/-- One text has one list of accounts. -/
theorem account_injective {fs gs : List NamedFacade} (hfs : FiniteNumbers fs)
    (hgs : FiniteNumbers gs) (h : source gs = source fs) :
    gs.map accountNamed = fs.map accountNamed := by
  have hread := read_source inverse_nearest hgs
  rw [h, read_source inverse_nearest hfs] at hread
  exact (Option.some.inj hread).symm

/-- The identifiers of the metric are identifiers once they are escaped. -/
structure Identified (m : Resolved) : Prop where
  accessor : Rust.Ident.Bare (Rust.Ident.escaped (Text.snakeCase m.accessor))
  field : Rust.Ident.Bare (Rust.Ident.escaped (Text.snakeCase m.field))

/-- **The description gives back every facade.** There is one as long as the token library takes the
accessors and fields, which a library that keeps to its documentation does if they are identifiers.
As long as the bucket numbers are finite too, it is well-formed JSON for every reader that takes
numbers for what was written, and holds the account of each facade in order, whatever characters
the other texts are made of. So two lists of facades with one description have the same accounts. -/
theorem description_faithful (lib : Rust.TokenLibrary) {fs : List NamedFacade}
    (h : FiniteNumbers fs) :
    ((∃ text, lib.buildDescription fs = .ok text) ↔
      ∀ f ∈ fs, ∀ m ∈ f.metrics, lib.TakesMetric m) ∧
    (lib.Documented → (∀ f ∈ fs, ∀ m ∈ f.metrics, Identified m) →
      ∃ text, lib.buildDescription fs = .ok text) ∧
    ∀ text, lib.buildDescription fs = .ok text →
      (∀ number, Inverse number →
        (parse? number text).bind readFacades = some (fs.map accountNamed)) ∧
      ∀ (other : Rust.TokenLibrary) (gs : List NamedFacade), FiniteNumbers gs →
        other.buildDescription gs = .ok text → gs.map accountNamed = fs.map accountNamed := by
  have hbuilt : (∃ text, lib.buildDescription fs = .ok text) ↔
      ∀ f ∈ fs, ∀ m ∈ f.metrics, lib.TakesMetric m := by
    simp only [Rust.TokenLibrary.buildDescription_eq_ok_iff, exists_and_left, exists_eq, and_true]
  refine ⟨hbuilt, ?_, ?_⟩
  · intro hlib hidentified
    refine hbuilt.2 fun f hf m hm => ?_
    have hm' := hidentified f hf m hm
    exact ⟨hlib.takes hm'.accessor, hlib.takes hm'.field⟩
  · intro text htext
    obtain ⟨-, rfl⟩ := Rust.TokenLibrary.buildDescription_eq_ok_iff.1 htext
    refine ⟨fun number hnumber => read_source hnumber h, fun other gs hgs hother => ?_⟩
    exact account_injective h hgs (Rust.TokenLibrary.buildDescription_eq_ok_iff.1 hother).2.symm

/-- Every kind of ladder, texts that need escapes or more than one code unit, and a type of
another name. -/
def ladderSample : List NamedFacade :=
  [⟨⟨"café::pool", [
      ⟨"requests \"total\"", ["code", "méthode"], .counter, "tabs\tand\x00\n\\ and 🎈", none, "Requests",
        "RequestsCounter", "café::pool", "pool.toml"⟩,
      ⟨"wait", [], .histogram, "", some (.exponential 0.1 2 3), "Wait", "WaitHistogram", "café::pool", ""⟩,
      ⟨"age", ["type"], .histogram, " ", some (.linear (-1.5) 1e300 2), "type", "typeHistogram", "", ""⟩,
      ⟨"size", [], .histogram, "\u2028", some (.explicit [-0.0, 5e-324, 123456789]), "size", "s", "", ""⟩,
      ⟨"idle", [], .histogram, "/", some .standard, "idle", "i", "", ""⟩]⟩, "Metrics"⟩,
   ⟨⟨"", []⟩, "Réseau \"2\""⟩]

theorem ladderSample_faithful :
    FiniteNumbers ladderSample ∧
      ∃ text, Rust.TokenLibrary.ofWords.buildDescription ladderSample = .ok text ∧
        (parse? NumberParts.nearest text).bind readFacades =
          some (ladderSample.map accountNamed) := by
  have hfinite : FiniteNumbers ladderSample := by
    unfold FiniteNumbers
    decide +kernel
  have hspelled : ∀ f ∈ ladderSample, ∀ m ∈ f.metrics,
      Check.isIdentifier m.accessor ∧ Check.isIdentifier m.field := by
    decide +kernel
  have hidentified : ∀ f ∈ ladderSample, ∀ m ∈ f.metrics, Identified m := by
    intro f hf m hm
    obtain ⟨haccessor, hfield⟩ := hspelled f hf m hm
    exact ⟨Rust.Ident.bare_member (Check.isIdentifier_iff.1 haccessor),
      Rust.Ident.bare_member (Check.isIdentifier_iff.1 hfield)⟩
  obtain ⟨-, hdescribed, hfaithful⟩ := description_faithful Rust.TokenLibrary.ofWords hfinite
  obtain ⟨text, htext⟩ := hdescribed Rust.TokenLibrary.documented_ofWords hidentified
  exact ⟨hfinite, text, htext, (hfaithful text htext).1 _ inverse_nearest⟩

end MetricFacade.Description
