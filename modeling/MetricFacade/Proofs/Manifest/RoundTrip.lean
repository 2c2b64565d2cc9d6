import MetricFacade.Manifest.Format
import MetricFacade.Proofs.Bucket.Ladder
import MetricFacade.Proofs.Json.Numbers
import MetricFacade.Proofs.Manifest.Record

/-!
# Manifests read back

A manifest that is written as JSON is read back as it was: an absent field is left out and read as
absent, an empty list of labels is left out and read as empty, and an empty list of bounds, which
is not the same as none, is written. Only numbers need care. A number that is not finite would be
written as a null, and a count is read up to 64 bits.

Results:

* `optionsOf_toJson`, `entryOf_toJson`, `manifestOf_toJson`: each record is read from its object.
* `restored_toJson`: a reader that restores the numbers of the buckets restores the manifest.
* `parse_serialize`: the text of a manifest gives back the manifest.
-/
namespace MetricFacade

open Json (Value NumberParts RestoredFields entriesOf restoredFields_iff restoredItems_iff splitNumberNode?)

/-! ## The numbers in a manifest -/

namespace Bucket.Spec

/-- The doubles among the parameters of a specification. -/
def doubles : Spec → List Float
  | explicit values => values
  | exponential start factor _ => [start, factor]
  | linear start width _ => [start, width]
  | standard => []

end Bucket.Spec

namespace Manifest

def Entry.doubles (e : Entry) : List Float :=
  e.specs.flatMap (·.doubles)

def Entry.counts (e : Entry) : List Nat :=
  e.specs.filterMap (·.count?)

/-- The doubles in the bucket annotations of a manifest. -/
def doubles (m : Manifest) : List Float :=
  m.metrics.flatMap (·.doubles)

/-- The counts in the bucket annotations of a manifest. -/
def counts (m : Manifest) : List Nat :=
  m.metrics.flatMap (·.counts)

section

variable {e : Entry}

theorem Entry.doubles_eq (e : Entry) :
    e.doubles = e.buckets.getD [] ++ (e.exponential.map fun b => [b.start, b.factor]).getD []
      ++ (e.linear.map fun b => [b.start, b.width]).getD [] := by
  cases hb : e.buckets <;> cases he : e.exponential <;> cases hl : e.linear <;>
    simp [Entry.doubles, Entry.specs, Bucket.Spec.doubles, hb, he, hl]

theorem Entry.counts_eq (e : Entry) :
    e.counts = (e.exponential.map (·.count)).toList ++ (e.linear.map (·.count)).toList := by
  cases hb : e.buckets <;> cases he : e.exponential <;> cases hl : e.linear <;>
    simp [Entry.counts, Entry.specs, Bucket.Spec.count?, hb, he, hl]

end

/-! ## Reading each record -/

variable {dialect : Dialect}

theorem variantOf_text {α : Type} {ofText? : String → Option α} {s : String} {a : α}
    (h : ofText? s = some a) : variantOf dialect ofText? (Value.text s).toNode = .ok a := by
  rw [Value.toNode, variantOf]
  dsimp only
  rw [h]

theorem ofText?_policyName (p : BucketPolicy) : BucketPolicy.ofText? p.name = some p := by
  cases p <;> rfl

theorem ofText?_tag (k : Metric.Kind) : Metric.Kind.ofText? k.tag = some k := by
  cases k <;> rfl

/-- A formula is read from its parameters. -/
theorem formulaOf_object {α : Type} {second : String} {make : Float → Float → Nat → α}
    (hstart : second ≠ "start") (hcount : second ≠ "count") (a b : Float) {n : Nat}
    (hn : n < 2 ^ 64) :
    formulaOf dialect second make
      (Value.object [("start", .double a), (second, .double b), ("count", .nat n)]).toNode =
        .ok (make a b n) := by
  have hdistinct : ["start", second, "count"].Nodup := by
    simp [hstart.symm, hcount]
  refine Eq.trans (recordOf_object ⟨some a, some b, some n⟩ (List.Sublist.refl _) hdistinct ?_) rfl
  refine .cons ⟨some a, none, none⟩ rfl (.cons ⟨some a, some b, none⟩ ?_ (.single ?_))
  · rw [if_neg hstart, if_pos rfl]
    rfl
  · rw [if_neg (by decide), if_neg hcount.symm, countOf_nat hn]
    rfl

theorem optionsOf_toJson (o : Options) : optionsOf dialect o.toJson.toNode = .ok o := by
  obtain ⟨policy, crate⟩ := o
  have hnames := (names_optional "runtime_crate" (crate.map .text)).cons_cons "bucket_policy"
  refine Eq.trans (recordOf_object ⟨policy, crate⟩ hnames (by decide) (.cons ⟨policy, none⟩ ?_ ?_)) rfl
  · rw [if_pos rfl, variantOf_text (ofText?_policyName policy)]
    rfl
  · exact .optional "runtime_crate" .text textOf (Options.mk policy) (fun _ => rfl) (fun _ => nofun)
      fun s _ => textOf_text s

theorem exponentialOf_toJson {b : ExponentialBuckets} (h : b.count < 2 ^ 64) :
    formulaOf dialect "factor" ExponentialBuckets.mk b.toJson.toNode = .ok b :=
  formulaOf_object (by decide) (by decide) b.start b.factor h

theorem linearOf_toJson {b : LinearBuckets} (h : b.count < 2 ^ 64) :
    formulaOf dialect "width" LinearBuckets.mk b.toJson.toNode = .ok b :=
  formulaOf_object (by decide) (by decide) b.start b.width h

section Entries

variable (scope ident : String) (kind : Metric.Kind) (name help : Option String)
  (labels : List String) (buckets : Option (List Float)) (exponential : Option ExponentialBuckets)
  (linear : Option LinearBuckets)

/-- What is known of an entry once its required fields, and as many of the others, are taken. -/
def draft : EntryDraft :=
  ⟨some ident, some kind, ⟨scope, "", .counter, name, help, labels, buckets, exponential, linear⟩⟩

theorem leads_required :
    Leads (entryStep dialect)
      (entriesOf [("namespace", .text scope), ("ident", .text ident), ("type", .text kind.tag)])
      {} (draft scope ident kind none none [] none none none) := by
  refine .cons ⟨none, none, { scope, ident := "", kind := .counter }⟩ rfl
    (.cons ⟨some ident, none, { scope, ident := "", kind := .counter }⟩ rfl (.single ?_))
  exact congrArg (Except.map (draft scope ident · none none [] none none none))
    (variantOf_text (ofText?_tag kind))

theorem leads_name :
    Leads (entryStep dialect) (entriesOf (optional "name" (name.map .text)))
      (draft scope ident kind none none [] none none none)
      (draft scope ident kind name none [] none none none) :=
  .optional "name" .text textOf (draft scope ident kind · none [] none none none) (fun _ => rfl)
    (fun _ => nofun) fun s _ => textOf_text s

theorem leads_help :
    Leads (entryStep dialect) (entriesOf (optional "help" (help.map .text)))
      (draft scope ident kind name none [] none none none)
      (draft scope ident kind name help [] none none none) :=
  .optional "help" .text textOf (draft scope ident kind name · [] none none none) (fun _ => rfl)
    (fun _ => nofun) fun s _ => textOf_text s

/-- No labels are left out, and read as none. -/
theorem leads_labels :
    Leads (entryStep dialect)
      (entriesOf (optional "labels" (if labels.isEmpty then none else some (.texts labels))))
      (draft scope ident kind name help [] none none none)
      (draft scope ident kind name help labels none none none) := by
  cases labels with
  | nil => exact .nil
  | cons label labels =>
    exact .single (congrArg (Except.map (draft scope ident kind name help · none none none))
      (listOf_texts (label :: labels)))

theorem leads_buckets :
    Leads (entryStep dialect) (entriesOf (optional "buckets" (buckets.map .doubles)))
      (draft scope ident kind name help labels none none none)
      (draft scope ident kind name help labels buckets none none) :=
  .optional "buckets" .doubles (listOf doubleOf)
    (draft scope ident kind name help labels · none none) (fun _ => rfl) (fun _ => nofun)
    fun bounds _ => listOf_doubles bounds

theorem leads_exponential (h : ∀ b ∈ exponential, b.count < 2 ^ 64) :
    Leads (entryStep dialect)
      (entriesOf (optional "exponential_buckets" (exponential.map (·.toJson))))
      (draft scope ident kind name help labels buckets none none)
      (draft scope ident kind name help labels buckets exponential none) :=
  .optional "exponential_buckets" (·.toJson) (formulaOf dialect "factor" ExponentialBuckets.mk)
    (draft scope ident kind name help labels buckets · none) (fun _ => rfl) (fun _ => nofun)
    fun b hb => exponentialOf_toJson (h b hb)

theorem leads_linear (h : ∀ b ∈ linear, b.count < 2 ^ 64) :
    Leads (entryStep dialect) (entriesOf (optional "linear_buckets" (linear.map (·.toJson))))
      (draft scope ident kind name help labels buckets exponential none)
      (draft scope ident kind name help labels buckets exponential linear) :=
  .optional "linear_buckets" (·.toJson) (formulaOf dialect "width" LinearBuckets.mk)
    (draft scope ident kind name help labels buckets exponential) (fun _ => rfl) (fun _ => nofun)
    fun b hb => linearOf_toJson (h b hb)

end Entries

theorem entryOf_toJson {e : Entry} (h : ∀ n ∈ e.counts, n < 2 ^ 64) :
    entryOf dialect e.toJson.toNode = .ok e := by
  obtain ⟨scope, ident, kind, name, help, labels, buckets, exponential, linear⟩ := e
  rw [Entry.counts_eq] at h
  have hexponential : ∀ b ∈ exponential, b.count < 2 ^ 64 := by
    rintro b rfl
    exact h b.count (by simp)
  have hlinear : ∀ b ∈ linear, b.count < 2 ^ 64 := by
    rintro b rfl
    exact h b.count (by simp)
  refine Eq.trans (recordOf_object
    (draft scope ident kind name help labels buckets exponential linear) ?_ (by decide) ?_) rfl
  · simp only [List.map_append]
    exact ((((((List.Sublist.refl ["namespace", "ident", "type"]).append
      (names_optional "name" _)).append (names_optional "help" _)).append
      (names_optional "labels" _)).append (names_optional "buckets" _)).append
      (names_optional "exponential_buckets" _)).append (names_optional "linear_buckets" _)
  · simp only [entriesOf_append]
    exact ((((((leads_required scope ident kind).append
      (leads_name scope ident kind name)).append
      (leads_help scope ident kind name help)).append
      (leads_labels scope ident kind name help labels)).append
      (leads_buckets scope ident kind name help labels buckets)).append
      (leads_exponential scope ident kind name help labels buckets exponential hexponential)).append
      (leads_linear scope ident kind name help labels buckets exponential linear hlinear)

theorem manifestOf_toJson {m : Manifest} (h : ∀ n ∈ m.counts, n < 2 ^ 64) :
    manifestOf dialect m.toJson.toNode = .ok m := by
  obtain ⟨options, metrics⟩ := m
  have hentries : ∀ e ∈ metrics, entryOf dialect e.toJson.toNode = .ok e := fun e he =>
    entryOf_toJson fun n hn => h n (List.mem_flatMap.2 ⟨e, he, hn⟩)
  refine Eq.trans (recordOf_object ⟨options, metrics⟩ (List.Sublist.refl _) (by decide)
    (.cons ⟨options, []⟩ ?_ (.single ?_))) rfl
  · rw [if_pos rfl, optionsOf_toJson]
    rfl
  · rw [if_neg (by decide), listOf_list hentries]
    rfl

/-! ## Restoring each number -/

section

variable {number : Bool → NumberParts → Node}

theorem restoredFields_append {fields rest : List (String × Value)} :
    RestoredFields number (fields ++ rest) ↔
      RestoredFields number fields ∧ RestoredFields number rest := by
  simp only [restoredFields_iff, List.forall_mem_append]

theorem restoredFields_optional {α : Type} {name : String} {write : α → Value} {o : Option α}
    (h : ∀ a ∈ o, (write a).Restored number) :
    RestoredFields number (optional name (o.map write)) := by
  cases o with
  | none => trivial
  | some a => exact ⟨h a rfl, trivial⟩

/-- The reader of numbers takes the doubles and the counts for what was written. -/
structure Restores (number : Bool → NumberParts → Node) (doubles : List Float) (counts : List Nat) :
    Prop where
  double : ∀ x ∈ doubles, (Value.double x).Restored number
  count : ∀ n ∈ counts, (Value.nat n).Restored number

theorem restored_texts (ss : List String) : (Value.texts ss).Restored number :=
  restoredItems_iff.2 (List.forall_mem_map.2 fun _ _ => trivial)

theorem restored_options (o : Options) : o.toJson.Restored number :=
  ⟨trivial, restoredFields_optional fun _ _ => trivial⟩

theorem restored_entry {e : Entry} (h : Restores number e.doubles e.counts) :
    e.toJson.Restored number := by
  obtain ⟨hdoubles, hcounts⟩ := h
  rw [Entry.doubles_eq] at hdoubles
  rw [Entry.counts_eq] at hcounts
  simp only [List.forall_mem_append] at hdoubles hcounts
  have hrequired : RestoredFields number
      [("namespace", .text e.scope), ("ident", .text e.ident), ("type", .text e.kind.tag)] :=
    ⟨trivial, trivial, trivial, trivial⟩
  have hlabels : RestoredFields number
      (optional "labels" (if e.labels.isEmpty then none else some (.texts e.labels))) := by
    split_ifs
    · trivial
    · exact ⟨restored_texts e.labels, trivial⟩
  have hbuckets : ∀ bounds ∈ e.buckets, (Value.doubles bounds).Restored number := by
    intro bounds hbounds
    refine restoredItems_iff.2 (List.forall_mem_map.2 fun x hx => hdoubles.1.1 x ?_)
    rwa [hbounds]
  have hexponential : ∀ b ∈ e.exponential, b.toJson.Restored number := by
    intro b hb
    rw [hb] at hdoubles hcounts
    exact ⟨hdoubles.1.2 _ (by simp), hdoubles.1.2 _ (by simp), hcounts.1 _ (by simp), trivial⟩
  have hlinear : ∀ b ∈ e.linear, b.toJson.Restored number := by
    intro b hb
    rw [hb] at hdoubles hcounts
    exact ⟨hdoubles.2 _ (by simp), hdoubles.2 _ (by simp), hcounts.2 _ (by simp), trivial⟩
  rw [Entry.toJson, Value.Restored]
  simp only [restoredFields_append]
  exact ⟨⟨⟨⟨⟨⟨hrequired, restoredFields_optional fun _ _ => trivial⟩,
    restoredFields_optional fun _ _ => trivial⟩, hlabels⟩, restoredFields_optional hbuckets⟩,
    restoredFields_optional hexponential⟩, restoredFields_optional hlinear⟩

theorem restored_toJson {m : Manifest} (h : Restores number m.doubles m.counts) :
    m.toJson.Restored number := by
  have hentries : (Value.list (m.metrics.map (·.toJson))).Restored number :=
    restoredItems_iff.2 (List.forall_mem_map.2 fun e he => restored_entry
      ⟨fun x hx => h.double x (List.mem_flatMap.2 ⟨e, he, hx⟩),
        fun n hn => h.count n (List.mem_flatMap.2 ⟨e, he, hn⟩)⟩)
  exact ⟨restored_options m.options, hentries, trivial⟩

theorem ofDocument_serialize {m : Manifest} (h : Restores number m.doubles m.counts)
    (hcounts : ∀ n ∈ m.counts, n < 2 ^ 64) :
    ofDocument dialect (Json.read number m.serialize) = .ok m := by
  rw [serialize, Json.read_compact (restored_toJson h), ofDocument, manifestOf_toJson hcounts]
  rfl

end

/-- **A manifest of finite numbers is read back from its text as it was.** The reader of JSON has
to give back numbers as they were written; the running one need not, so that is asked of the
doubles in the manifest. Counts are those of 64 bits. -/
theorem parse_serialize {m : Manifest} (hfinite : ∀ x ∈ m.doubles, x.isFinite)
    (hcounts : ∀ n ∈ m.counts, n < 2 ^ 64) :
    (∀ number, Json.Inverse number → ofDocument .json (Json.read number m.serialize) = .ok m) ∧
      ((∀ x ∈ m.doubles,
          splitNumberNode? NumberParts.node (Number.switching x) = some (.double x, [])) →
        parse .json m.serialize = .ok m) := by
  constructor
  · intro number h
    have hrestores : Restores number m.doubles m.counts :=
      ⟨fun x hx => ⟨hfinite x hx, h.double x (hfinite x hx)⟩, fun n _ => h.int n⟩
    exact ofDocument_serialize hrestores hcounts
  · intro hdoubles
    have hrestores : Restores NumberParts.node m.doubles m.counts :=
      ⟨fun x hx => ⟨hfinite x hx, hdoubles x hx⟩,
        fun n hn => Json.splitNumberNode?_gathered (hcounts n hn)⟩
    rw [parse, Format.document, Format.dialect]
    exact ofDocument_serialize hrestores hcounts

/-- Every kind of field, absent and present; no bounds at all, and the largest count. -/
def fullSample : Manifest :=
  ⟨⟨.lenient, some "my \"runtime\""⟩,
    [⟨"a::b", "Hits", .counter, none, none, [], none, none, none⟩,
     ⟨"", "Wait", .histogram, some "wait", some "line\nbreak", ["a", ""], some [],
       some ⟨0.25, 2, 18446744073709551615⟩, some ⟨-1, 1e300, 0⟩⟩]⟩

theorem fullSample_back : parse .json fullSample.serialize = .ok fullSample ∧
    ofDocument .json (Json.read NumberParts.nearest fullSample.serialize) = .ok fullSample := by
  have hread := @parse_serialize fullSample (by decide +kernel) (by decide +kernel)
  refine ⟨hread.2 ?_, hread.1 _ Json.inverse_nearest⟩
  have hreturned : ∀ x ∈ fullSample.doubles, Json.returned x := by
    decide +kernel
  exact fun x hx => Json.returned_iff.1 (hreturned x hx)

end Manifest

end MetricFacade
