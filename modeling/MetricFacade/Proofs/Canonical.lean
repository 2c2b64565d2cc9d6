import Mathlib.Data.List.DropRight
import MetricFacade.Proofs.Policy

/-!
# Canonical texts

Names and labels are brought into canonical form once, when a declaration is resolved. Whoever
does it before changes nothing, with one exception: a name of nothing but blanks comes to the
empty text, and an empty name is no name at all.

Results:

* `trim_split`, `Trimmed.trim`: what trimming takes away, and when it takes nothing.
* `canonicalize_canonicalize`: the canonical form of a canonical form is itself.
* `resolve_canonical`: a declaration in canonical form resolves to the same metric.
* `compile_edit`: compiling sees no more of declarations than that and their bucket annotations.
* `compile_canonical`: what a canonical form looks like, and whole sets of them compiled.
-/
namespace MetricFacade

/-! ## Trimming -/

namespace Text

/-- The text neither begins nor ends with a blank. -/
structure Trimmed (cs : List Char) : Prop where
  head : ∀ c ∈ cs.head?, isBlank c = false
  last : ∀ c ∈ cs.getLast?, isBlank c = false

variable {cs : List Char}

theorem trim_eq (cs : List Char) : trim cs = (cs.dropWhile isBlank).rdropWhile isBlank :=
  rfl

/-- What trimming takes away is blank, and stood around the rest. -/
theorem trim_split (cs : List Char) : ∃ before behind,
    cs = before ++ trim cs ++ behind ∧ ∀ c ∈ before ++ behind, isBlank c := by
  refine ⟨cs.takeWhile isBlank, (cs.dropWhile isBlank).rtakeWhile isBlank, ?_, ?_⟩
  · rw [trim_eq, List.append_assoc, List.rdropWhile_append_rtakeWhile,
      List.takeWhile_append_dropWhile]
  · intro c hc
    rcases List.mem_append.1 hc with hbefore | hbehind
    · exact List.mem_takeWhile_imp hbefore
    · exact List.mem_rtakeWhile_imp hbehind

theorem trimmed_trim (cs : List Char) : Trimmed (trim cs) := by
  rw [trim_eq]
  refine ⟨?head, ?last⟩
  case head =>
    intro c hc
    obtain ⟨behind, hbehind⟩ := List.rdropWhile_prefix isBlank (l := cs.dropWhile isBlank)
    have hstop := List.head?_dropWhile_not isBlank cs
    rw [← hbehind, List.head?_append, Option.mem_def.1 hc] at hstop
    simpa using hstop
  case last =>
    intro c hc
    obtain ⟨hne, rfl⟩ := List.mem_getLast?_eq_getLast hc
    simpa using List.rdropWhile_last_not isBlank (cs.dropWhile isBlank) hne

/-- There is nothing to take away from a trimmed text. -/
theorem Trimmed.trim (h : Trimmed cs) : trim cs = cs := by
  have hfront : cs.dropWhile isBlank = cs := by
    cases cs with
    | nil => rfl
    | cons c cs => exact List.dropWhile_cons_of_neg (by simp [h.head c rfl])
  rw [trim_eq, hfront, List.rdropWhile_eq_self_iff]
  intro hne
  simp [h.last _ (List.getLast_mem_getLast? hne)]

/-- It is a trimmed text still if only its blanks are written in another way. -/
theorem Trimmed.map (h : Trimmed cs) {f : Char → Char} (hf : ∀ c, isBlank c = false → f c = c) :
    Trimmed (cs.map f) := by
  refine ⟨?head, ?last⟩
  case head =>
    intro c hc
    rw [List.head?_map] at hc
    obtain ⟨d, hd, rfl⟩ := Option.map_eq_some_iff.1 hc
    rw [hf d (h.head d hd)]
    exact h.head d hd
  case last =>
    intro c hc
    rw [List.getLast?_map] at hc
    obtain ⟨d, hd, rfl⟩ := Option.map_eq_some_iff.1 hc
    rw [hf d (h.last d hd)]
    exact h.last d hd

theorem trim_eq_nil : Text.trim cs = [] ↔ ∀ c ∈ cs, isBlank c := by
  constructor
  · intro hnone c hc
    obtain ⟨before, behind, hcs, hblank⟩ := trim_split cs
    rw [hnone, List.append_nil] at hcs
    exact hblank c (hcs ▸ hc)
  · intro hblank
    rw [trim_eq, List.dropWhile_eq_nil_iff.2 hblank, List.rdropWhile_nil]

end Text

/-! ## Canonical forms -/

namespace Metric

/-- A space in a name is written as an underscore. -/
def underscored (c : Char) : Char :=
  if c = ' ' then '_' else c

theorem toList_canonicalize (s : String) :
    (canonicalize s).toList = (Text.trim s.toList).map underscored :=
  String.toList_ofList

theorem underscored_ne (c : Char) : underscored c ≠ ' ' := by
  unfold underscored
  split
  · decide
  · assumption

theorem underscored_of_ne {c : Char} (h : c ≠ ' ') : underscored c = c :=
  if_neg h

theorem space_notMem_canonicalize (s : String) : ' ' ∉ (canonicalize s).toList := by
  rw [toList_canonicalize, List.mem_map]
  rintro ⟨c, -, hc⟩
  exact underscored_ne c hc

theorem trimmed_canonicalize (s : String) : Text.Trimmed (canonicalize s).toList := by
  rw [toList_canonicalize]
  refine (Text.trimmed_trim s.toList).map ?_
  intro c hc
  refine underscored_of_ne ?_
  rintro rfl
  cases hc

/-- Canonicalizing leaves a trimmed text without spaces as it is. -/
theorem canonicalize_of_trimmed {s : String} (h : Text.Trimmed s.toList) (hspace : ' ' ∉ s.toList) :
    canonicalize s = s := by
  have hsame : s.toList.map underscored = s.toList :=
    calc s.toList.map underscored
        = s.toList.map id :=
          List.map_congr_left fun c hc => underscored_of_ne (ne_of_mem_of_not_mem hc hspace)
      _ = s.toList := List.map_id _
  rw [← String.toList_inj, toList_canonicalize, h.trim, hsame]

theorem canonicalize_canonicalize (s : String) : canonicalize (canonicalize s) = canonicalize s :=
  canonicalize_of_trimmed (trimmed_canonicalize s) (space_notMem_canonicalize s)

theorem canonicalize_eq_empty {s : String} : canonicalize s = "" ↔ Text.isAllBlank s := by
  rw [← String.toList_inj, toList_canonicalize, String.toList_empty, List.map_eq_nil_iff, Text.trim_eq_nil,
    Text.isAllBlank, List.all_eq_true]

namespace Declaration

/-- The declaration with its name and its labels in canonical form. An empty name stays empty. -/
def canonical (d : Declaration) : Declaration :=
  { d with name := d.name.map canonicalize, labels := d.labels.map canonicalize }

/-- If the declaration has a name that is not empty, not all of it is blank. -/
def Named (d : Declaration) : Prop :=
  ∀ name ∈ d.name, name ≠ "" → Text.isAllBlank name = false

theorem resolvedLabels_canonical (d : Declaration) :
    d.canonical.resolvedLabels = d.resolvedLabels := by
  change (d.labels.map canonicalize).map canonicalize = d.labels.map canonicalize
  rw [List.map_map]
  exact List.map_congr_left fun label _ => canonicalize_canonicalize label

theorem resolvedName_canonical {d : Declaration} (h : d.Named) :
    d.canonical.resolvedName = d.resolvedName := by
  cases hname : d.name with
  | none => simp [resolvedName, canonical, hname]
  | some name =>
    by_cases hempty : name = ""
    · have hstays : canonicalize "" = "" := canonicalize_eq_empty.2 rfl
      simp [resolvedName, canonical, hname, hempty, hstays]
    · -- it does not become empty, so the identifier does not take its place
      have hkept : canonicalize name ≠ "" := by
        rw [Ne, canonicalize_eq_empty, h name hname hempty]
        exact Bool.false_ne_true
      simp [resolvedName, canonical, hname, hempty, hkept, canonicalize_canonicalize]

theorem resolve_canonical {d : Declaration} (h : d.Named) : d.canonical.resolve = d.resolve := by
  unfold resolve
  rw [resolvedName_canonical h, resolvedLabels_canonical]
  rfl

end Declaration

end Metric

/-! ## Whole sets -/

open Check MetricFacade.Metric

/-- Both resolve to the same metric, and have the same bucket annotations. -/
structure Alike (d e : Declaration) : Prop where
  resolve : e.resolve = d.resolve
  buckets : e.buckets = d.buckets

theorem Alike.naming {d e : Declaration} (h : Alike d e) : SameNaming d e where
  name := congrArg Resolved.name h.resolve
  labels := congrArg Resolved.labels h.resolve
  scope := congrArg Resolved.scope h.resolve
  ident := congrArg Resolved.accessor h.resolve
  kind := congrArg Resolved.kind h.resolve

theorem Alike.bucketBreach {d e : Declaration} (h : Alike d e) (policy : BucketPolicy) :
    bucketBreach? policy e = bucketBreach? policy d := by
  have hresolved : e.resolvedBuckets = d.resolvedBuckets := congrArg Resolved.buckets h.resolve
  unfold bucketBreach? bucketConflict? annotationKinds Declaration.ownBuckets bucketFault?
  rw [h.buckets, h.naming.kind, h.naming.name, hresolved]

theorem compile_of_alike {edit : Declaration → Declaration} (h : ∀ d, Alike d (edit d))
    (policy : BucketPolicy) (ds : List Declaration) :
    compile policy (ds.map edit) = compile policy ds := by
  have hbuckets : illegalBuckets policy (ds.map edit) = illegalBuckets policy ds := by
    unfold illegalBuckets
    rw [List.flatMap_map]
    simp only [(h _).bucketBreach, (h _).naming.site]
  have hfacades : facades (ds.map edit) = facades ds := by
    unfold facades
    rw [List.map_map]
    simp only [Function.comp_def, (h _).resolve]
  unfold compile
  rw [violations_eq, namingViolations_edit fun d => (h d).naming, hbuckets, hfacades, violations_eq]

/-- Compiling sees no more of the declarations of a set than what makes them alike. -/
theorem compile_edit {edit : Declaration → Declaration} {ds : List Declaration}
    (h : ∀ d ∈ ds, Alike d (edit d)) (policy : BucketPolicy) :
    compile policy (ds.map edit) = compile policy ds := by
  classical
  -- declarations that are not in the set may be left alone
  have hmap : ds.map edit = ds.map fun d => if Alike d (edit d) then edit d else d :=
    List.map_congr_left fun d hd => (if_pos (h d hd)).symm
  rw [hmap]
  refine compile_of_alike (fun d => ?_) policy ds
  split
  · assumption
  · exact ⟨rfl, rfl⟩

/-- **Canonical forms are final.** The canonical form of a text is its own canonical form. It has
no space, neither begins nor ends with a blank, and is as long as the text without the blanks
around it. A set of declarations with all names and labels in canonical form compiles to what the
set itself compiles to, facades or violations, unless it has a name that is blank without being
empty. -/
theorem compile_canonical :
    (∀ s : String, canonicalize (canonicalize s) = canonicalize s ∧
      ' ' ∉ (canonicalize s).toList ∧
      Text.Trimmed (canonicalize s).toList ∧
      ∃ before middle behind, s.toList = before ++ middle ++ behind ∧
        (∀ c ∈ before ++ behind, Text.isBlank c) ∧ Text.Trimmed middle ∧
        (canonicalize s).length = middle.length) ∧
    ∀ ds : List Declaration, (∀ d ∈ ds, d.Named) →
      ∀ policy, compile policy (ds.map (·.canonical)) = compile policy ds := by
  constructor
  · intro s
    obtain ⟨before, behind, hs, hblank⟩ := Text.trim_split s.toList
    refine ⟨canonicalize_canonicalize s, space_notMem_canonicalize s, trimmed_canonicalize s,
      before, Text.trim s.toList, behind, hs, hblank, Text.trimmed_trim s.toList, ?_⟩
    rw [← String.length_toList, toList_canonicalize, List.length_map]
  · intro ds hnamed policy
    exact compile_edit (fun d hd => ⟨Declaration.resolve_canonical (hnamed d hd), rfl⟩) policy

/-- A name that is blank is none once it is canonical, and the identifier takes its place. -/
example :
    let d : Declaration := ⟨"app", "Hits", .counter, some " ", "", [], []⟩
    d.resolvedName = "" ∧ d.canonical.resolvedName = "Hits" := by
  decide +kernel

/-- Blanks of several kinds around names and labels and within them, and an empty name. -/
def paddedSample : List Declaration :=
  [⟨"app", "Hits", .counter, some "\u00a0all hits\n", "", [" by\u2003", "http status"], []⟩,
   ⟨"app", "Size", .gauge, some "", "", [], []⟩, ⟨"db", "Wait", .histogram, none, "", ["\tpool"], []⟩]

theorem paddedSample_canonical :
    (∀ d ∈ paddedSample, d.Named) ∧ paddedSample.map (·.canonical) ≠ paddedSample ∧
      compile .strict (paddedSample.map (·.canonical)) = .ok (facades paddedSample) := by
  have hnamed : ∀ d ∈ paddedSample, d.Named := by
    unfold Declaration.Named
    decide +kernel
  refine ⟨hnamed, by decide +kernel, ?_⟩
  rw [compile_canonical.2 paddedSample hnamed .strict]
  exact compile_eq_ok_iff.2 ⟨by decide +kernel, rfl⟩

end MetricFacade
