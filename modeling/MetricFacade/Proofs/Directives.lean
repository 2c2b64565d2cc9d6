import MetricFacade.Build
import MetricFacade.Proofs.Command.Listing
import MetricFacade.Proofs.Reports

/-!
# Violations on lines

A build prints one directive to a line, and an error lists one violation to a line. The messages
quote names, labels, identifiers and namespaces as they were given, so a line break in one of
them breaks the line: what stands behind it is read as a directive of its own.

Results:

* `breaks_message`: the line breaks in a message are those of the texts it quotes.
* `unbroken_iff`: a report keeps to its lines exactly if no declaration has a line break where it
  can be quoted. Where there is one, some check rejects that very text and quotes it.
* `directives_on_lines`: how many lines a build prints and an error has.
* `not_all_directives_on_lines`: a name that smuggles in a directive.
-/
namespace MetricFacade

open Check Text MetricFacade.Metric
open Command (listed listing_ended)

/-! ## Messages -/

theorem breaks_plain (x : Float) : breaks (Number.plain x) = 0 := by
  have hsigned : ∀ {cs : List Char}, '\n' ∉ cs →
      breaks (String.ofList (Number.signed x cs)) = 0 := by
    intro cs h
    rw [breaks_eq_zero, String.toList_ofList, Number.signed]
    split
    · simpa using h
    · exact h
  have hdigits : ∀ {cs : List Char}, Number.AllDigits cs → '\n' ∉ cs := fun h hn =>
    absurd (h.digit _ hn) (by decide)
  unfold Number.plain
  split
  · decide
  split
  · exact hsigned (by decide)
  · refine hsigned ?_
    rcases Number.positional_shape (Number.allDigits_magnitude .upper x) with
      h | ⟨whole, behind, h, hwhole, hbehind⟩
    · exact hdigits h
    · rw [h]
      simp [hdigits hwhole, hdigits hbehind]

theorem breaks_metricKind (kind : Kind) : breaks kind.name = 0 := by
  cases kind <;> exact breaks_ofList (by decide)

theorem breaks_bucketKind (kind : Bucket.Kind) : breaks kind.name = 0 := by
  cases kind <;> exact breaks_ofList (by decide)

theorem breaks_conflict (conflict : BucketConflict) : breaks conflict.message = 0 := by
  cases conflict with
  | notAHistogram kind =>
    refine breaks_append_eq_zero ?_ (breaks_ofList (by decide))
    exact breaks_append_eq_zero (breaks_ofList (by decide)) (breaks_metricKind kind)
  | multipleKinds kinds =>
    have hnames : breaks (", ".intercalate (kinds.map (·.name))) = 0 := by
      rw [breaks_intercalate (breaks_ofList (by decide)), sum_breaks_eq_zero, List.forall_mem_map]
      exact fun kind _ => breaks_bucketKind kind
    refine breaks_append_eq_zero (breaks_append_eq_zero ?_ hnames) (breaks_ofList (by decide))
    refine breaks_append_eq_zero ?_ (breaks_ofList (by decide))
    exact breaks_append_eq_zero (breaks_ofList (by decide)) (breaks_toString kinds.length)

theorem breaks_fault (fault : Bucket.Fault) : breaks fault.message = 0 := by
  cases fault with
  | noValues => exact breaks_ofList (by decide)
  | noCount kind =>
    exact breaks_append_eq_zero (breaks_bucketKind kind) (breaks_ofList (by decide))
  | largeCount kind count =>
    refine breaks_append_eq_zero ?_ (breaks_toString count)
    refine breaks_append_eq_zero ?_ (breaks_ofList (by decide))
    refine breaks_append_eq_zero ?_ (breaks_toString Bucket.maxCount)
    exact breaks_append_eq_zero (breaks_bucketKind kind) (breaks_ofList (by decide))
  | startNotPositive x | factorNotAboveOne x | startNotFinite x | widthNotPositive x =>
    exact breaks_append_eq_zero (breaks_ofList (by decide)) (breaks_plain x)
  | boundNotFinite bound =>
    refine breaks_append_eq_zero ?_ (breaks_ofList (by decide))
    exact breaks_append_eq_zero (breaks_ofList (by decide)) (breaks_plain bound)
  | notIncreasing bound next =>
    refine breaks_append_eq_zero ?_ (breaks_plain next)
    refine breaks_append_eq_zero ?_ (breaks_ofList (by decide))
    exact breaks_append_eq_zero (breaks_ofList (by decide)) (breaks_plain bound)

/-- The texts of the declarations that the message quotes. -/
def Breach.quoted : Breach → List String
  | illegalName name => [name]
  | duplicateName name _ => [name]
  | inconsistentBuckets metric _ => [metric]
  | invalidBuckets metric _ => [metric]
  | illegalLabel metric label => [metric, label]
  | duplicateLabel metric label => [metric, label]
  | illegalIdentifier identifier => [identifier]
  | duplicateMember scope member => [scope, member]

theorem breaks_quote {a b : String} (ha : breaks a = 0) (hb : breaks b = 0) (s : String) :
    breaks (a ++ s ++ b) = breaks s := by
  rw [breaks_append, breaks_append, ha, hb, Nat.zero_add, Nat.add_zero]

theorem breaks_quotes {a b c : String} (ha : breaks a = 0) (hb : breaks b = 0)
    (hc : breaks c = 0) (s t : String) : breaks (a ++ s ++ b ++ t ++ c) = breaks s + breaks t := by
  rw [breaks_append, breaks_append, breaks_quote ha hb, hc, Nat.add_zero]

theorem breaks_breach (breach : Breach) :
    breaks breach.message = (breach.quoted.map breaks).sum := by
  unfold Breach.message
  cases breach with
  | illegalName name =>
    dsimp only
    split
    · rename_i hempty
      rw [String.isEmpty_iff.1 hempty]
      decide
    · exact breaks_quote (breaks_ofList (by decide)) (breaks_ofList (by decide)) name
  | inconsistentBuckets metric conflict =>
    rw [breaks_append, breaks_conflict]
    exact breaks_quote (breaks_ofList (by decide)) (breaks_ofList (by decide)) metric
  | invalidBuckets metric fault =>
    rw [breaks_append, breaks_fault]
    exact breaks_quote (breaks_ofList (by decide)) (breaks_ofList (by decide)) metric
  | duplicateName name count =>
    rw [breaks_quotes (breaks_ofList (by decide)) (breaks_ofList (by decide))
      (breaks_ofList (by decide)), breaks_toString]
    rfl
  | illegalIdentifier identifier =>
    exact breaks_quote (breaks_ofList (by decide)) (breaks_ofList (by decide)) identifier
  | illegalLabel | duplicateLabel | duplicateMember =>
    exact breaks_quotes (breaks_ofList (by decide)) (breaks_ofList (by decide))
      (breaks_ofList (by decide)) _ _

/-- Nothing else that a message is made of holds a line break. -/
theorem breaks_message (v : Violation) :
    breaks v.message = (v.breach.quoted.map breaks).sum + (v.sites.map breaks).sum := by
  unfold Violation.message
  split
  · rename_i hempty
    rw [List.isEmpty_iff.1 hempty, breaks_breach]
    rfl
  · have hsites := breaks_intercalate (show breaks ", " = 0 by decide) v.sites
    rw [breaks_append, breaks_append, breaks_append, breaks_breach, hsites]
    rfl

/-! ## How a message ends

A listing has no line break behind its last line, so it is read as lines that are ended only
because its last message does not end in a line break of its own. -/

/-- The text has an end that is no line break. -/
def EndsInText (s : String) : Prop :=
  s.toList.getLast?.any (· ≠ '\n') = true

instance (s : String) : Decidable (EndsInText s) :=
  inferInstanceAs (Decidable (_ = true))

theorem endsInText_iff {s : String} :
    EndsInText s ↔ ∃ c, s.toList.getLast? = some c ∧ c ≠ '\n' := by
  rw [EndsInText, Option.any_eq_true]
  simp only [decide_eq_true_eq]

theorem endsInText_ofList {cs : List Char} (h : cs.getLast?.any (· ≠ '\n') = true) :
    EndsInText (String.ofList cs) := by
  rw [EndsInText, String.toList_ofList]
  exact h

theorem EndsInText.append {t : String} (h : EndsInText t) (s : String) : EndsInText (s ++ t) := by
  obtain ⟨c, hc, hne⟩ := endsInText_iff.1 h
  refine endsInText_iff.2 ⟨c, ?_, hne⟩
  rw [String.toList_append, List.getLast?_append, hc]
  rfl

theorem EndsInText.ne_empty {s : String} (h : EndsInText s) : s ≠ "" := by
  rintro rfl
  cases h

theorem EndsInText.getLast? {s : String} (h : EndsInText s) : s.toList.getLast? ≠ some '\n' := by
  obtain ⟨c, hc, hne⟩ := endsInText_iff.1 h
  rw [hc]
  exact fun h => hne (Option.some.inj h)

theorem endsInText_of_breaks {s : String} (h : breaks s = 0) (hne : s ≠ "") : EndsInText s := by
  cases hc : s.toList.getLast? with
  | none => exact absurd (String.toList_eq_nil_iff.1 (List.getLast?_eq_none_iff.1 hc)) hne
  | some c =>
    refine endsInText_iff.2 ⟨c, hc, ?_⟩
    rintro rfl
    exact breaks_eq_zero.1 h (List.mem_of_getLast? hc)

theorem endsInText_breach (breach : Breach) : EndsInText breach.message := by
  unfold Breach.message
  cases breach with
  | illegalName name =>
    dsimp only
    split
    · exact endsInText_ofList (by decide)
    · exact EndsInText.append (endsInText_ofList (by decide)) _
  | inconsistentBuckets metric conflict =>
    refine EndsInText.append (endsInText_of_breaks (breaks_conflict conflict) ?_) _
    cases conflict <;> simp [BucketConflict.message]
  | invalidBuckets metric fault =>
    refine EndsInText.append (endsInText_of_breaks (breaks_fault fault) ?_) _
    unfold Bucket.Fault.message
    cases fault <;> simp
  | duplicateName | illegalLabel | duplicateLabel | illegalIdentifier | duplicateMember =>
    exact EndsInText.append (endsInText_ofList (by decide)) _

theorem endsInText_message (v : Violation) : EndsInText v.message := by
  unfold Violation.message
  split
  · exact endsInText_breach v.breach
  · exact EndsInText.append (endsInText_ofList (by decide)) _

theorem endsInText_join {texts : List String} (h : ∀ t ∈ texts, EndsInText t) {s : String}
    (hs : EndsInText s) : EndsInText (s ++ String.join texts) := by
  induction texts generalizing s with
  | nil => rwa [String.join_nil, String.append_empty]
  | cons text rest ih =>
    rw [String.join_cons, ← String.append_assoc]
    exact ih (fun t ht => h t (List.mem_cons_of_mem text ht))
      ((h text List.mem_cons_self).append s)

theorem endsInText_listing (vs : List Violation) : EndsInText (Violation.listing vs) := by
  refine endsInText_join ?_ ?_
  · rw [List.forall_mem_map]
    exact fun v _ => (endsInText_message v).append _
  · unfold Violation.heading
    split
    · rw [String.append_empty]
      exact EndsInText.append (endsInText_ofList (by decide)) _
    · exact EndsInText.append (endsInText_ofList (by decide)) _

theorem lines_listing (vs : List Violation) :
    lines (Violation.listing vs) = lines (ended (listed vs)) := by
  have h := endsInText_listing vs
  rw [← listing_ended, lines_concat h.ne_empty h.getLast?]

/-! ## What is quoted -/

/-- No text of the declaration that a report can quote holds a line break. -/
structure Unbroken (d : Declaration) : Prop where
  scope : breaks d.scope = 0
  ident : breaks d.ident = 0
  name : breaks d.resolvedName = 0
  labels : ∀ label ∈ d.resolvedLabels, breaks label = 0

variable {policy : BucketPolicy} {ds : List Declaration}

theorem Unbroken.site {d : Declaration} (h : Unbroken d) : breaks d.site = 0 := by
  rw [Declaration.site, breaks_append, breaks_append, h.scope, h.ident]
  decide

theorem Unbroken.segments {d : Declaration} (h : Unbroken d) :
    ∀ segment ∈ Text.segments d.scope, breaks segment = 0 := by
  rw [← sum_breaks_eq_zero, breaks_segments]
  exact h.scope

theorem breaks_escaped {name : String} (h : breaks name = 0) :
    breaks (Rust.Ident.escaped name) = 0 := by
  unfold Rust.Ident.escaped
  split
  · rw [breaks_append, h]
    decide
  · exact h

theorem breaks_param {label : String} (h : breaks label = 0) (i : Nat) :
    breaks (Rust.Ident.param label i) = 0 := by
  unfold Rust.Ident.param
  split
  · rw [breaks_append, breaks_toString]
    decide
  · exact breaks_escaped h

theorem breaks_member (name : String) : breaks (Rust.Ident.member name) = 0 :=
  breaks_escaped (breaks_snakeCase name)

/-- The texts that the message of a breach quotes are on one line each. -/
def Breach.Unbroken (breach : Breach) : Prop :=
  ∀ text ∈ breach.quoted, breaks text = 0

theorem unbroken_labelsBreaches {metric : String} (hmetric : breaks metric = 0)
    {earlier rest : List String} (hrest : ∀ label ∈ rest, breaks label = 0) :
    ∀ breach ∈ labelsBreaches metric earlier rest, breach.Unbroken := by
  have hpair : ∀ {text : String}, breaks text = 0 → ∀ t ∈ [metric, text], breaks t = 0 := by
    intro text htext
    simp [hmetric, htext]
  induction rest generalizing earlier with
  | nil => simp [labelsBreaches]
  | cons label rest ih =>
    obtain ⟨hlabel, hrest⟩ := List.forall_mem_cons.1 hrest
    intro breach hbreach
    rw [labelsBreaches, List.mem_append] at hbreach
    rcases hbreach with hhere | hlater
    · simp only [labelBreaches, List.mem_append] at hhere
      rcases hhere with (hspelling | hrepeated) | hclash
      · split at hspelling
        · cases hspelling
        · cases List.mem_singleton.1 hspelling
          exact hpair hlabel
      · split at hrepeated
        · cases List.mem_singleton.1 hrepeated
          exact hpair hlabel
        · cases hrepeated
      · split at hclash
        · split at hclash
          · cases hclash
          · cases List.mem_singleton.1 hclash
            exact hpair (breaks_param hlabel _)
        · cases hclash
    · exact ih hrest breach hlater

theorem unbroken_check {d : Declaration} (h : Unbroken d) (aspect : Aspect) {v : Violation}
    (hv : v ∈ aspect.check policy d) : v.breach.Unbroken := by
  have hname : ∀ t ∈ [d.resolvedName], breaks t = 0 := by simp [h.name]
  cases aspect with
  | name =>
    simp only [Aspect.check, illegalName] at hv
    split at hv
    · cases hv
    · cases List.mem_singleton.1 hv
      exact hname
  | labels =>
    obtain ⟨breach, hbreach, rfl⟩ := List.mem_map.1 hv
    exact unbroken_labelsBreaches h.name h.labels breach hbreach
  | buckets =>
    simp only [Aspect.check, Option.mem_toList, Option.map_eq_some_iff] at hv
    obtain ⟨breach, hbreach, rfl⟩ := hv
    unfold bucketBreach? at hbreach
    split at hbreach
    · cases hbreach
      exact hname
    · obtain ⟨fault, -, rfl⟩ := Option.map_eq_some_iff.1 hbreach
      exact hname

theorem unbroken_duplicateNames (h : ∀ d ∈ ds, Unbroken d) :
    ∀ v ∈ duplicateNames ds, v.breach.Unbroken := by
  intro v hv
  obtain ⟨⟨name, users⟩, hgroup, hv⟩ := List.mem_flatMap.1 hv
  dsimp only at hv
  split at hv
  · obtain ⟨⟨d, hd, rfl⟩, -⟩ := mem_groupBy.1 hgroup
    cases List.mem_singleton.1 hv
    simp [Breach.Unbroken, Breach.quoted, (h d hd).name]
  · cases hv

theorem unbroken_illegalIdentifiers (h : ∀ d ∈ ds, Unbroken d) :
    ∀ v ∈ illegalIdentifiers ds, v.breach.Unbroken := by
  intro v hv
  obtain ⟨⟨spelling, uses⟩, hgroup, hv⟩ := List.mem_flatMap.1 hv
  dsimp only at hv
  split at hv
  · cases hv
  · obtain ⟨⟨use, huse, rfl⟩, -⟩ := mem_groupBy.1 hgroup
    obtain ⟨d, hd, huse⟩ := List.mem_flatMap.1 huse
    obtain ⟨spelling, hspelling, rfl⟩ := List.mem_map.1 huse
    cases List.mem_singleton.1 hv
    simp only [Breach.Unbroken, Breach.quoted, List.forall_mem_singleton]
    rcases List.mem_append.1 hspelling with hsegment | hident
    · exact (h d hd).segments spelling hsegment
    · rw [List.mem_singleton.1 hident]
      exact (h d hd).ident

theorem unbroken_duplicateMembers (h : ∀ d ∈ ds, Unbroken d) :
    ∀ v ∈ duplicateMembers ds, v.breach.Unbroken := by
  have hsites : ∀ {view : Declaration → Member} {member : Member} {sites : List String},
      (member, sites) ∈ memberSites view ds → ∃ d ∈ ds, view d = member := by
    intro view member sites hmem
    obtain ⟨⟨m, users⟩, hgroup, heq⟩ := List.mem_map.1 hmem
    cases heq
    exact (mem_groupBy.1 hgroup).1
  intro v hv
  obtain ⟨member, hbreach, hmember⟩ := mem_of_mem_clashes hv
  rw [hbreach]
  rcases List.mem_append.1 hmember with hmem | hmem <;> obtain ⟨d, hd, rfl⟩ := hsites hmem <;>
    simp [Breach.Unbroken, Breach.quoted, accessorOf, fieldOf, breaks_member, (h d hd).scope]

theorem unbroken_moduleUse (h : ∀ d ∈ ds, Unbroken d) {use : ModuleUse}
    (huse : use ∈ ds.flatMap moduleUsesOf) :
    breaks use.place.parent = 0 ∧ breaks use.place.name = 0 := by
  obtain ⟨d, hd, huse⟩ := List.mem_flatMap.1 huse
  obtain ⟨p, segment, q, hsegments, rfl⟩ := mem_moduleUses.1 huse
  have hall := (h d hd).segments
  rw [hsegments] at hall
  refine ⟨?_, breaks_escaped (hall segment (by simp))⟩
  rw [Text.joinPath, breaks_intercalate (by decide), List.nil_append, sum_breaks_eq_zero]
  exact fun s hs => hall s (List.mem_append_left _ hs)

theorem unbroken_duplicateModules (h : ∀ d ∈ ds, Unbroken d) :
    ∀ v ∈ duplicateModules ds, v.breach.Unbroken := by
  intro v hv
  obtain ⟨⟨place, uses⟩, hgroup, hv⟩ := List.mem_flatMap.1 hv
  dsimp only at hv
  split at hv
  · obtain ⟨⟨use, huse, rfl⟩, -⟩ := mem_places.1 hgroup
    obtain ⟨hparent, hname⟩ := unbroken_moduleUse h huse
    cases List.mem_singleton.1 hv
    simp only [Breach.Unbroken, Breach.quoted, List.forall_mem_cons]
    refine ⟨?_, hname, by simp⟩
    split
    · decide
    · exact hparent
  · cases hv

theorem unbroken_reservedModuleNames (h : ∀ d ∈ ds, Unbroken d) :
    ∀ v ∈ reservedModuleNames ds, v.breach.Unbroken := by
  intro v hv
  obtain ⟨⟨name, uses⟩, hgroup, rfl⟩ := List.mem_map.1 hv
  obtain ⟨⟨use, huse, rfl⟩, -⟩ := mem_groupBy.1 hgroup
  obtain ⟨⟨place, placed⟩, hplace, huse⟩ := List.mem_flatMap.1 huse
  dsimp only at huse
  split at huse
  · obtain ⟨-, rfl⟩ := mem_places.1 hplace
    have hname := (unbroken_moduleUse h (List.mem_filter.1 huse).1).2
    simpa [Breach.Unbroken, Breach.quoted] using hname
  · cases huse

theorem unbroken_violations (h : ∀ d ∈ ds, Unbroken d) :
    ∀ v ∈ violations policy ds, v.breach.Unbroken := by
  have haspect : ∀ aspect : Aspect, ∀ v ∈ ds.flatMap (aspect.check policy), v.breach.Unbroken := by
    intro aspect v hv
    obtain ⟨d, hd, hv⟩ := List.mem_flatMap.1 hv
    exact unbroken_check (h d hd) aspect hv
  simp only [violations, List.forall_mem_append]
  exact ⟨⟨⟨⟨⟨⟨⟨haspect .name, unbroken_duplicateNames h⟩, haspect .labels⟩,
    unbroken_illegalIdentifiers h⟩, unbroken_duplicateMembers h⟩, unbroken_duplicateModules h⟩,
    unbroken_reservedModuleNames h⟩, haspect .buckets⟩

/-! ## What is rejected -/

theorem breaks_of_wordChars {s : String} (h : ∀ c ∈ s.toList, isWordChar c) : breaks s = 0 :=
  breaks_eq_zero.2 fun hn => absurd (h _ hn) (by decide)

theorem illegalName_mem {d : Declaration} (hd : d ∈ ds) (h : ¬ isName d.resolvedName) :
    ⟨.illegalName d.resolvedName, [d.site]⟩ ∈ violations policy ds := by
  have hmem : ⟨.illegalName d.resolvedName, [d.site]⟩ ∈ illegalNames ds := by
    refine List.mem_flatMap.2 ⟨d, hd, ?_⟩
    rw [illegalName, if_neg h]
    exact List.mem_singleton_self _
  simp [violations, hmem]

theorem illegalLabel_mem_labelsBreaches (metric : String) {label : String} (h : ¬ isLabel label)
    {earlier rest : List String} (hlabel : label ∈ rest) :
    Breach.illegalLabel metric label ∈ labelsBreaches metric earlier rest := by
  induction rest generalizing earlier with
  | nil => cases hlabel
  | cons first rest ih =>
    rw [labelsBreaches, List.mem_append]
    rcases List.mem_cons.1 hlabel with rfl | hlabel
    · left
      simp [labelBreaches, h]
    · right
      exact ih hlabel

theorem illegalLabel_mem {d : Declaration} (hd : d ∈ ds) {label : String}
    (hlabel : label ∈ d.resolvedLabels) (h : ¬ isLabel label) :
    ⟨.illegalLabel d.resolvedName label, [d.site]⟩ ∈ violations policy ds := by
  have hmem : ⟨.illegalLabel d.resolvedName label, [d.site]⟩ ∈ illegalLabels ds :=
    List.mem_flatMap.2 ⟨d, hd, List.mem_map.2
      ⟨_, illegalLabel_mem_labelsBreaches d.resolvedName h hlabel, rfl⟩⟩
  simp [violations, hmem]

theorem illegalIdentifier_mem {d : Declaration} (hd : d ∈ ds) {spelling : String}
    (hspelling : spelling ∈ Text.segments d.scope ++ [d.ident]) (h : ¬ isIdentifier spelling) :
    ∃ sites, ⟨.illegalIdentifier spelling, sites⟩ ∈ violations policy ds := by
  have huse : ⟨spelling, d.site⟩ ∈ ds.flatMap usesOf :=
    List.mem_flatMap.2 ⟨d, hd, List.mem_map.2 ⟨spelling, hspelling, rfl⟩⟩
  let uses := (ds.flatMap usesOf).filter fun use => use.spelling = spelling
  have hgroup : (spelling, uses) ∈ groupBy textLe (·.spelling) (ds.flatMap usesOf) :=
    mem_groupBy.2 ⟨⟨_, huse, rfl⟩, rfl⟩
  have hmem : ⟨.illegalIdentifier spelling, dropRepeats (uses.map (·.site))⟩ ∈
      illegalIdentifiers ds := by
    refine List.mem_flatMap.2 ⟨_, hgroup, ?_⟩
    dsimp only
    rw [if_neg h]
    exact List.mem_singleton_self _
  refine ⟨dropRepeats (uses.map (·.site)), ?_⟩
  simp [violations, hmem]

/-- A text with a line break is badly spelled, so it is reported, and the report quotes it. -/
theorem unbroken_of_violations (h : ∀ v ∈ violations policy ds, v.breach.Unbroken) :
    ∀ d ∈ ds, Unbroken d := by
  intro d hd
  -- every text is looked at by some check: what passes is made of word characters, and what
  -- does not is reported as it stands
  have hspelled : ∀ spelling ∈ Text.segments d.scope ++ [d.ident], breaks spelling = 0 := by
    intro spelling hspelling
    by_cases hid : isIdentifier spelling
    · exact breaks_of_wordChars (isIdentifier_iff.1 hid).word.chars
    · obtain ⟨sites, hmem⟩ : ∃ sites, ⟨.illegalIdentifier spelling, sites⟩ ∈ violations policy ds :=
        illegalIdentifier_mem hd hspelling hid
      exact h _ hmem spelling (List.mem_singleton_self _)
  obtain ⟨hsegments, hident⟩ := List.forall_mem_append.1 hspelled
  refine ⟨?_, hident d.ident (List.mem_singleton_self _), ?_, fun label hlabel => ?_⟩
  · rw [← breaks_segments, sum_breaks_eq_zero]
    exact hsegments
  · by_cases hname : isName d.resolvedName
    · exact breaks_of_wordChars (isName_iff.1 hname).2
    · exact h _ (illegalName_mem hd hname) _ (List.mem_singleton_self _)
  · by_cases hlegal : isLabel label
    · exact breaks_of_wordChars (isLabel_iff.1 hlegal).1.chars
    · refine h _ (illegalLabel_mem hd hlabel hlegal) label ?_
      exact List.mem_cons_of_mem _ (List.mem_singleton_self _)

theorem breaks_message_eq_zero {v : Violation} :
    breaks v.message = 0 ↔ v.breach.Unbroken ∧ ∀ site ∈ v.sites, breaks site = 0 := by
  rw [breaks_message, Nat.add_eq_zero_iff, sum_breaks_eq_zero, sum_breaks_eq_zero]
  rfl

/-- A report keeps to its lines exactly if the declarations keep to theirs. -/
theorem unbroken_iff :
    (∀ v ∈ violations policy ds, breaks v.message = 0) ↔ ∀ d ∈ ds, Unbroken d := by
  constructor
  · intro h
    exact unbroken_of_violations fun v hv => (breaks_message_eq_zero.1 (h v hv)).1
  · intro h v hv
    refine breaks_message_eq_zero.2 ⟨unbroken_violations h v hv, fun site hsite => ?_⟩
    obtain ⟨d, hd, rfl⟩ := site_of_violation hv site hsite
    exact (h d hd).site

/-! ## What is printed -/

/-- The line breaks in the messages of a report. -/
def reportBreaks (vs : List Violation) : Nat :=
  (vs.map fun v => breaks v.message).sum

theorem reportBreaks_eq_zero {vs : List Violation} :
    reportBreaks vs = 0 ↔ ∀ v ∈ vs, breaks v.message = 0 := by
  rw [reportBreaks, List.sum_eq_zero_iff_forall_eq_nat, List.forall_mem_map]

theorem breaks_warning (v : Violation) : breaks (Build.warning v) = breaks v.message := by
  rw [Build.warning, breaks_append, show breaks "cargo:warning=" = 0 by decide, Nat.zero_add]

theorem breaks_listed (v : Violation) : breaks ("  - " ++ v.message) = breaks v.message := by
  rw [breaks_append, show breaks "  - " = 0 by decide, Nat.zero_add]

theorem breaks_heading (n : Nat) : breaks (Violation.heading n) = 0 := by
  rw [Violation.heading, breaks_append, breaks_append, breaks_append, breaks_toString]
  split <;> decide

theorem length_lines_warnings (vs : List Violation) :
    (lines (ended (vs.map Build.warning))).length = vs.length + reportBreaks vs := by
  rw [length_lines_ended, List.length_map, List.map_map, reportBreaks]
  simp only [Function.comp_def, breaks_warning]

theorem length_lines_listing (vs : List Violation) :
    (lines (Violation.listing vs)).length = 1 + vs.length + reportBreaks vs := by
  rw [lines_listing, length_lines_ended, listed, List.length_cons, List.length_map, List.map_cons,
    List.sum_cons, List.map_map, breaks_heading, reportBreaks]
  simp only [Function.comp_def, breaks_listed]
  omega

theorem lines_warnings {vs : List Violation} (h : reportBreaks vs = 0) :
    lines (ended (vs.map Build.warning)) = vs.map Build.warning := by
  refine lines_ended (List.forall_mem_map.2 fun v hv => ?_)
  rw [breaks_warning]
  exact reportBreaks_eq_zero.1 h v hv

theorem lines_listed {vs : List Violation} (h : reportBreaks vs = 0) :
    lines (Violation.listing vs) = listed vs := by
  rw [lines_listing]
  refine lines_ended (List.forall_mem_cons.2
    ⟨breaks_heading _, List.forall_mem_map.2 fun v hv => ?_⟩)
  rw [breaks_listed]
  exact reportBreaks_eq_zero.1 h v hv

theorem violations_of_compile_error {vs : List Violation} (h : compile policy ds = .error vs) :
    vs = violations policy ds := by
  have hall : reported policy ds = violations policy ds := reported_eq_violations
  rwa [reported, h] at hall

/-- What a build prints of declarations that do not compile, and the error it ends with. -/
theorem printed_of_rejected {outDir : Option String} {files : Files} {b : Build} {m : Manifest}
    {vs : List Violation} (hm : Manifest.loadFile files b.manifest = .ok m)
    (hc : compile (Command.choosePolicy b.policy m) m.declarations = .error vs) :
    (b.run outDir files).printed =
        Build.watch b.manifest ++ "\n" ++ ended (vs.map Build.warning) ∧
      (b.run outDir files).result = .error ⟨.invalidListing b.manifest vs, []⟩ := by
  unfold Build.run
  rw [hm]
  dsimp only
  rw [hc]
  exact ⟨ended_cons _ _, rfl⟩

/-- **One directive to a line, unless a text breaks it.** If the declarations of a manifest do not
compile, then behind the line that names the file to watch a build prints as many lines as there
are violations and one more for each line break in their messages, and so does the listing in its
error behind the heading. There is none exactly if no declaration has a line break in its
namespace, its identifier, its resolved name or a resolved label; the lines are then the warnings
and the violations, one by one. -/
theorem directives_on_lines {outDir : Option String} {files : Files} {b : Build} {m : Manifest}
    {vs : List Violation} (hm : Manifest.loadFile files b.manifest = .ok m)
    (hc : compile (Command.choosePolicy b.policy m) m.declarations = .error vs) :
    ((b.run outDir files).printed =
        Build.watch b.manifest ++ "\n" ++ ended (vs.map Build.warning) ∧
      (b.run outDir files).result = .error ⟨.invalidListing b.manifest vs, []⟩) ∧
    (lines (ended (vs.map Build.warning))).length = vs.length + reportBreaks vs ∧
    (lines (Violation.listing vs)).length = 1 + vs.length + reportBreaks vs ∧
    (reportBreaks vs = 0 ↔ ∀ d ∈ m.declarations, Unbroken d) ∧
    (reportBreaks vs = 0 → lines (ended (vs.map Build.warning)) = vs.map Build.warning ∧
      lines (Violation.listing vs) =
        Violation.heading vs.length :: vs.map fun v => "  - " ++ v.message) := by
  refine ⟨printed_of_rejected hm hc, length_lines_warnings vs, length_lines_listing vs, ?_,
    fun h => ⟨lines_warnings h, lines_listed h⟩⟩
  rw [reportBreaks_eq_zero, violations_of_compile_error hc]
  exact unbroken_iff

/-- A manifest with one metric, whose name has a line break and goes on as a directive. -/
def smuggledFiles : Files :=
  ⟨[(["m.toml"], .text
    "[[metric]]\nident = \"A\"\ntype = \"counter\"\nname = \"a\\ncargo:rustc-cfg=b\"\n")]⟩

def smuggledManifest : Manifest :=
  { metrics := [{ ident := "A", kind := .counter, name := some "a\ncargo:rustc-cfg=b" }] }

def smuggledBuild : Build :=
  { manifest := "m.toml", output := some "metrics.rs" }

def smuggledViolations : List Violation :=
  [⟨.illegalName "a\ncargo:rustc-cfg=b", ["metrics::A"]⟩]

theorem load_smuggled :
    Manifest.loadFile smuggledFiles smuggledBuild.manifest = .ok smuggledManifest := by
  have h : (Manifest.loadFile smuggledFiles smuggledBuild.manifest).toOption =
      some smuggledManifest := by decide +kernel
  revert h
  cases Manifest.loadFile smuggledFiles smuggledBuild.manifest <;> simp [Except.toOption]

theorem compile_smuggled :
    compile (Command.choosePolicy smuggledBuild.policy smuggledManifest)
      smuggledManifest.declarations = .error smuggledViolations := by
  have h : violations .strict smuggledManifest.declarations = smuggledViolations := by
    decide +kernel
  show compile .strict _ = _
  rw [compile, h]
  rfl

theorem smuggled_on_lines :
    Manifest.loadFile smuggledFiles smuggledBuild.manifest = .ok smuggledManifest ∧
      compile (Command.choosePolicy smuggledBuild.policy smuggledManifest)
        smuggledManifest.declarations = .error smuggledViolations ∧
      (lines (ended (smuggledViolations.map Build.warning))).length = 2 := by
  refine ⟨load_smuggled, compile_smuggled, ?_⟩
  rw [(@directives_on_lines none _ _ _ _ load_smuggled compile_smuggled).2.1]
  decide +kernel

/-- One violation may be printed on two lines, of which the second is no warning. -/
theorem not_all_directives_on_lines :
    ¬ ∀ (outDir : Option String) (files : Files) (b : Build) (m : Manifest) (vs : List Violation),
      Manifest.loadFile files b.manifest = .ok m →
      compile (Command.choosePolicy b.policy m) m.declarations = .error vs →
      ∃ warnings, lines (b.run outDir files).printed = Build.watch b.manifest :: warnings ∧
        warnings.length = vs.length ∧ ∀ w ∈ warnings, "cargo:warning=".isPrefixOf w := by
  intro hall
  obtain ⟨warnings, hlines, hlength, -⟩ :=
    hall none smuggledFiles smuggledBuild smuggledManifest smuggledViolations load_smuggled
      compile_smuggled
  have hprinted : (lines (smuggledBuild.run none smuggledFiles).printed).length = 3 := by
    rw [(printed_of_rejected load_smuggled compile_smuggled).1]
    decide +kernel
  rw [hlines, List.length_cons, hlength] at hprinted
  exact absurd hprinted (by decide)

end MetricFacade
