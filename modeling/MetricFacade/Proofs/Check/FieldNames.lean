import MetricFacade.Proofs.Check.MemberClashes
import MetricFacade.Proofs.Rust.Ident
import MetricFacade.Proofs.Text.CapitalWord

/-!
# Fields follow accessors

A field is named after the identifier of its accessor with the kind behind it, and the two are put
into snake case together. The kind may become a word of its own or grow on to a number, but either
way the name of the field tells the kind, since it ends in it, and the name of the accessor before
it. So fields are the same only where accessors are, and the check of the fields finds nothing that
the check of the accessors does not find.

Results:

* `tag_suffix_field`: a field ends in the tag of its kind, so it is no keyword and not reserved.
* `field_injective`: a field tells its kind and the name of its accessor.
* `fieldsFollow`: what that means for the checks of a set of declarations.
* `fields_follow_accessors`: the whole of it.
-/
namespace MetricFacade

open Check MetricFacade.Metric

namespace Check

/-! ## Names of fields -/

theorem capitalWord_name (kind : Kind) : Text.CapitalWord kind.name.toList := by
  cases kind with
  | counter =>
    exact ⟨'C', 'o', "unter".toList, by decide, by decide, List.all_eq_true.1 (by decide)⟩
  | gauge => exact ⟨'G', 'a', "uge".toList, by decide, by decide, List.all_eq_true.1 (by decide)⟩
  | histogram =>
    exact ⟨'H', 'i', "stogram".toList, by decide, by decide, List.all_eq_true.1 (by decide)⟩

theorem map_toLower_name (kind : Kind) : kind.name.toList.map Char.toLower = kind.tag.toList := by
  cases kind <;> decide

theorem snakeChars_ne_nil {s : String} (h : IdentifierShape s) : Text.snakeChars s.toList ≠ [] := by
  obtain ⟨c, rest, hs, -⟩ := (Rust.Ident.snakeName_snakeCase h).starts
  rw [← Text.toList_snakeCase, hs]
  exact List.cons_ne_nil c rest

theorem IdentifierShape.chars {s : String} (h : IdentifierShape s) :
    ∀ c ∈ s.toList, c.isAlphanum ∨ c = '_' :=
  fun c hc => isWordChar_iff.1 (h.word.chars c hc)

/-- A field ends in the tag of its kind. -/
theorem tag_suffix_field {s : String} (h : IdentifierShape s) (kind : Kind) :
    kind.tag.toList <:+ (Text.snakeCase (s ++ kind.name)).toList := by
  rw [← map_toLower_name, Text.toList_snakeCase, String.toList_append]
  exact Text.map_toLower_suffix h.chars (snakeChars_ne_nil h) (capitalWord_name kind)

/-- No tag ends in another. -/
theorem eq_of_tag_suffix {k l : Kind} {cs : List Char} (hk : k.tag.toList <:+ cs)
    (hl : l.tag.toList <:+ cs) : k = l := by
  have hsuffix : ∀ k l : Kind, k.tag.toList <:+ l.tag.toList → k = l := by
    intro k l
    cases k <;> cases l <;> decide
  rcases List.suffix_or_suffix_of_suffix hk hl with hkl | hlk
  · exact hsuffix k l hkl
  · exact (hsuffix l k hlk).symm

/-- **A field tells its kind and the name of its accessor.** -/
theorem field_injective {x y : String} (hx : IdentifierShape x) (hy : IdentifierShape y)
    {k l : Kind} (h : Text.snakeCase (x ++ k.name) = Text.snakeCase (y ++ l.name)) :
    k = l ∧ Text.snakeCase x = Text.snakeCase y := by
  have hkind : k = l := eq_of_tag_suffix (tag_suffix_field hx k) (h ▸ tag_suffix_field hy l)
  subst hkind
  refine ⟨rfl, String.toList_inj.1 ?_⟩
  have hchars := congrArg String.toList h
  simp only [Text.toList_snakeCase, String.toList_append] at hchars ⊢
  exact Text.snakeChars_append_injective hx.chars hy.chars (snakeChars_ne_nil hx)
    (snakeChars_ne_nil hy) (capitalWord_name k) hchars

/-! ## Members -/

/-- Nothing that ends in a tag is a keyword or reserved. -/
theorem field_plain {s : String} (h : IdentifierShape s) (kind : Kind) :
    Text.snakeCase (s ++ kind.name) ∉ Rust.Ident.pathKeywords ∧
      Text.snakeCase (s ++ kind.name) ∉ reservedMembers := by
  have hother : ∀ name ∈ Rust.Ident.pathKeywords ++ reservedMembers,
      ¬ kind.tag.toList <:+ name.toList := by
    cases kind <;> decide
  have hsuffix := tag_suffix_field h kind
  exact ⟨fun hpath => hother _ (List.mem_append_left _ hpath) hsuffix,
    fun hreserved => hother _ (List.mem_append_right _ hreserved) hsuffix⟩

theorem name_accessorOf (d : Declaration) : (accessorOf d).name = accessorName d := by
  rw [accessorOf, accessorName]

theorem name_fieldOf (d : Declaration) : (fieldOf d).name = fieldName d := by
  rw [fieldOf, fieldName]

theorem fieldName_eq {d : Declaration} (h : IdentifierShape d.ident) :
    fieldName d = Text.snakeCase (d.ident ++ d.kind.name) :=
  if_neg (field_plain h d.kind).1

theorem accessorName_eq_of_fieldName_eq {d e : Declaration} (hd : IdentifierShape d.ident)
    (he : IdentifierShape e.ident) (h : fieldName d = fieldName e) :
    accessorName d = accessorName e := by
  rw [fieldName_eq hd, fieldName_eq he] at h
  rw [accessorName, accessorName, Rust.Ident.member, Rust.Ident.member, (field_injective hd he h).2]

theorem MembersFit.fields {ds : List Declaration} (hlegal : ∀ d ∈ ds, IdentifierShape d.ident)
    (h : MembersFit accessorName ds) : MembersFit fieldName ds where
  distinct := by
    refine h.distinct.imp_of_mem ?_
    intro d e hd he hdiffer hscope hfield
    exact hdiffer hscope (accessorName_eq_of_fieldName_eq (hlegal d hd) (hlegal e he) hfield)
  free := by
    intro d hd
    rw [fieldName_eq (hlegal d hd)]
    exact (field_plain (hlegal d hd) d.kind).2

end Check

/-! ## Clashes -/

theorem sites_accessor (ds : List Declaration) (scope name : String) :
    (⟨.accessor, scope, name⟩ : Slot).sites ds =
      (ds.filter fun d => d.scope = scope ∧ accessorName d = name).map (·.site) := by
  simp only [Slot.sites, View.member, name_accessorOf]

theorem sites_field (ds : List Declaration) (scope name : String) :
    (⟨.field, scope, name⟩ : Slot).sites ds =
      (ds.filter fun d => d.scope = scope ∧ fieldName d = name).map (·.site) := by
  simp only [Slot.sites, View.member, name_fieldOf]

/-- The sites of a field are among those of its accessor. -/
theorem sites_field_sublist {ds : List Declaration} (hlegal : ∀ d ∈ ds, IdentifierShape d.ident)
    {d : Declaration} (hd : d ∈ ds) :
    ((⟨.field, d.scope, fieldName d⟩ : Slot).sites ds).Sublist
      ((⟨.accessor, d.scope, accessorName d⟩ : Slot).sites ds) := by
  have hboth : ∀ e ∈ ds, fieldName e = fieldName d → accessorName e = accessorName d :=
    fun e he => accessorName_eq_of_fieldName_eq (hlegal e he) (hlegal d hd)
  have hpicked : (ds.filter fun e => e.scope = d.scope ∧ fieldName e = fieldName d) =
      (ds.filter fun e => e.scope = d.scope ∧ accessorName e = accessorName d).filter
        fun e => e.scope = d.scope ∧ fieldName e = fieldName d := by
    rw [List.filter_filter]
    refine List.filter_congr fun e he => ?_
    rw [← Bool.decide_and, decide_eq_decide]
    exact ⟨fun h => ⟨h, h.1, hboth e he h.2⟩, And.left⟩
  rw [sites_field, sites_accessor, hpicked]
  exact List.filter_sublist.map _

/-- A clash of fields is part of a clash of accessors. -/
theorem exists_accessor_clash {ds : List Declaration}
    (hlegal : ∀ d ∈ ds, IdentifierShape d.ident) {s : Slot} (hview : s.view = .field)
    (h : s.Clashes ds) :
    ∃ t : Slot, t.view = .accessor ∧ t.scope = s.scope ∧ t.Clashes ds ∧
      (s.sites ds).Sublist (t.sites ds) := by
  obtain ⟨view, scope, name⟩ := s
  obtain rfl : view = .field := hview
  have hsome := Slot.mem_all.1 (Slot.clashes_iff.1 h).1
  rw [sites_field, ne_eq, List.map_eq_nil_iff] at hsome
  obtain ⟨d, hpicked⟩ := List.exists_mem_of_ne_nil _ hsome
  obtain ⟨hd, hslot⟩ := List.mem_filter.1 hpicked
  obtain ⟨rfl, rfl⟩ := of_decide_eq_true hslot
  have hfree : fieldName d ∉ reservedMembers := by
    rw [fieldName_eq (hlegal d hd)]
    exact (field_plain (hlegal d hd) d.kind).2
  have hsublist := sites_field_sublist hlegal hd
  refine ⟨⟨.accessor, d.scope, accessorName d⟩, rfl, rfl, ?_, hsublist⟩
  rw [Slot.Clashes] at h ⊢
  dsimp only at h
  rcases h with hmany | ⟨hreserved, -⟩
  · exact .inl (hmany.trans hsublist.length_le)
  · exact absurd hreserved hfree

/-- What the fields of a set of declarations owe to the accessors. -/
structure FieldsFollow (ds : List Declaration) : Prop where
  /-- Where accessors differ, fields do. -/
  distinct : ∀ d ∈ ds, ∀ e ∈ ds, d.scope = e.scope →
    (accessorOf d).name ≠ (accessorOf e).name → (fieldOf d).name ≠ (fieldOf e).name
  /-- All that define a clashing field define a clashing accessor too. -/
  clash : ∀ s : Slot, s.view = .field → s.Clashes ds →
    ∃ t : Slot, t.view = .accessor ∧ t.scope = s.scope ∧ t.Clashes ds ∧
      (s.sites ds).Sublist (t.sites ds)
  /-- If the accessors pass their check, so do the fields, alone and behind the accessors. -/
  passed : clashes [] (memberSites accessorOf ds) = [] →
    clashes [] (memberSites fieldOf ds) = [] ∧ duplicateMembers ds = []

theorem fieldsFollow {ds : List Declaration} (h : ∀ d ∈ ds, isIdentifier d.ident) :
    FieldsFollow ds := by
  have hlegal : ∀ d ∈ ds, IdentifierShape d.ident := fun d hd => isIdentifier_iff.1 (h d hd)
  constructor
  · intro d hd e he _ hdiffer hsame
    rw [name_accessorOf, name_accessorOf] at hdiffer
    rw [name_fieldOf, name_fieldOf] at hsame
    exact hdiffer (accessorName_eq_of_fieldName_eq (hlegal d hd) (hlegal e he) hsame)
  · intro s hview hclash
    exact exists_accessor_clash hlegal hview hclash
  · intro hnone
    have haccessors : MembersFit accessorName ds := memberSites_fit.1 (clashes_eq_nil.1 hnone)
    have hfields : MembersFit fieldName ds := haccessors.fields hlegal
    exact ⟨clashes_eq_nil.2 (memberSites_fit.2 hfields),
      duplicateMembers_eq_nil.2 ⟨haccessors, hfields⟩⟩

/-- **Fields follow accessors.** An identifier is put into snake case properly, alone and with a
kind behind it. From the latter the kind and the former are told. So among declarations with legal
identifiers the fields are as distinct as the accessors, and their check never has the only say. -/
theorem fields_follow_accessors :
    (∀ x : String, isIdentifier x →
      Text.SnakeName (Text.snakeCase x) ∧
        ∀ k : Kind, Text.SnakeName (Text.snakeCase (x ++ k.name))) ∧
    (∀ (x y : String) (k l : Kind), isIdentifier x → isIdentifier y →
      Text.snakeCase (x ++ k.name) = Text.snakeCase (y ++ l.name) →
        k = l ∧ Text.snakeCase x = Text.snakeCase y) ∧
    ∀ ds : List Declaration, (∀ d ∈ ds, isIdentifier d.ident) → FieldsFollow ds := by
  refine ⟨?_, ?_, fun ds h => fieldsFollow h⟩
  · intro x hx
    have hshape := isIdentifier_iff.1 hx
    exact ⟨Rust.Ident.snakeName_snakeCase hshape, fun k => Rust.Ident.snakeName_snakeCase
      (Rust.Ident.identifierShape_append hshape (Rust.Ident.kind_name_chars k))⟩
  · intro x y k l hx hy hsame
    exact field_injective (isIdentifier_iff.1 hx) (isIdentifier_iff.1 hy) hsame

/-- Two spellings of one accessor, and a number that the kind grows on to. -/
def spellingsSample : List Declaration :=
  [⟨"shop", "FooBar", .counter, none, "", [], []⟩,
   ⟨"shop", "fooBAR_", .gauge, none, "", [], []⟩,
   ⟨"shop", "_Foo_1", .counter, none, "", [], []⟩]

theorem spellingsSample_follow :
    (∀ d ∈ spellingsSample, isIdentifier d.ident) ∧ FieldsFollow spellingsSample ∧
      isIdentifier "FooBar" ∧ isIdentifier "_foo_bar" ∧
      Text.snakeCase ("FooBar" ++ Kind.gauge.name) =
        Text.snakeCase ("_foo_bar" ++ Kind.gauge.name) ∧
      Text.snakeCase "FooBar" = Text.snakeCase "_foo_bar" ∧
      isIdentifier "_Foo_1" ∧ Text.SnakeName (Text.snakeCase ("_Foo_1" ++ Kind.counter.name)) := by
  have hlegal : ∀ d ∈ spellingsSample, isIdentifier d.ident := by decide
  have hfoo : isIdentifier "FooBar" := by decide
  have hbar : isIdentifier "_foo_bar" := by decide
  have hnumber : isIdentifier "_Foo_1" := by decide
  have hsame : Text.snakeCase ("FooBar" ++ Kind.gauge.name) =
      Text.snakeCase ("_foo_bar" ++ Kind.gauge.name) := by decide +kernel
  obtain ⟨hnames, htold, hfollow⟩ := fields_follow_accessors
  exact ⟨hlegal, hfollow spellingsSample hlegal, hfoo, hbar, hsame,
    (htold "FooBar" "_foo_bar" .gauge .gauge hfoo hbar hsame).2, hnumber,
    (hnames "_Foo_1" hnumber).2 .counter⟩

end MetricFacade
