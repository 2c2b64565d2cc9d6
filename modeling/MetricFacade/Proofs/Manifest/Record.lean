import MetricFacade.Manifest.Decoding
import MetricFacade.Proofs.Json.Reading

/-!
# Records read back

A record is read field by field, each field changing what is known of the record so far. So the
reading of what a writer wrote is told by one step for each field, and a field that was left out
takes none.

Results:

* `Leads`: the fields take one record to another.
* `Leads.optional`: a field that is written only if it is there.
* `recordOf_object`: an object with some of the names, in their order, is read by its fields alone.
* `optionalOf_some`, `listOf_list`: what holds of a reader holds behind an option and in a list.
-/
namespace MetricFacade.Manifest

open Json (Value entriesOf nodesOf)

/-! ## Values -/

section

variable {α : Type} {read : Node → Read α} {write : α → Value}

/-- Nothing that is written for a value is taken for an absent one, unless it is a null. -/
theorem optionalOf_some {v : Value} {a : α} (hnull : v ≠ .null) (h : read v.toNode = .ok a) :
    optionalOf read v.toNode = .ok (some a) := by
  cases v with
  | null => exact absurd rfl hnull
  | _ => exact congrArg (Except.map some) h

theorem nodesOf_map (items : List α) :
    nodesOf (items.map write) = items.map fun a => (write a).toNode := by
  induction items with
  | nil => rfl
  | cons a items ih => rw [List.map_cons, nodesOf, ih, List.map_cons]

theorem listOf_list {items : List α} (h : ∀ a ∈ items, read (write a).toNode = .ok a) :
    listOf read (Value.list (items.map write)).toNode = .ok items := by
  have hitems : (items.map fun a => (write a).toNode).mapM read = .ok items := by
    induction items with
    | nil => rfl
    | cons a items ih =>
      obtain ⟨hfirst, hrest⟩ := List.forall_mem_cons.1 h
      rw [List.map_cons, List.mapM_cons, hfirst, ih hrest]
      rfl
  rw [Value.toNode, nodesOf_map]
  change ((items.map fun a => (write a).toNode).mapM read >>= _) = _
  rw [hitems]
  rfl

theorem textOf_text (s : String) : textOf (Value.text s).toNode = .ok s :=
  rfl

theorem listOf_texts (ss : List String) : listOf textOf (Value.texts ss).toNode = .ok ss :=
  listOf_list fun s _ => textOf_text s

theorem listOf_doubles (xs : List Float) : listOf doubleOf (Value.doubles xs).toNode = .ok xs :=
  listOf_list fun _ _ => rfl

/-- A count is read back if it fits 64 bits. -/
theorem countOf_nat {n : Nat} (h : n < 2 ^ 64) : countOf (Value.nat n).toNode = .ok n := by
  have hrange : 0 ≤ (n : Int) ∧ (n : Int) < Nat.pow 2 64 := ⟨Int.natCast_nonneg n, by exact_mod_cast h⟩
  rw [Value.nat, Value.toNode, countOf]
  dsimp only [untagged]
  rw [if_pos hrange, Int.toNat_natCast]

end

/-! ## Fields one after the other -/

section

variable {ρ : Type} {step : String → Node → ρ → Read ρ}

/-- The entries, taken in order, make one record of another. -/
inductive Leads (step : String → Node → ρ → Read ρ) : List (String × Node) → ρ → ρ → Prop
  | nil {record : ρ} : Leads step [] record record
  | cons {name : String} {node : Node} {rest : List (String × Node)} {before after : ρ} (record : ρ)
      (first : step name node before = .ok record) (others : Leads step rest record after) :
      Leads step ((name, node) :: rest) before after

variable {before record after : ρ}

theorem Leads.append {entries rest : List (String × Node)} (h : Leads step entries before record)
    (hrest : Leads step rest record after) : Leads step (entries ++ rest) before after := by
  induction h with
  | nil => exact hrest
  | cons record first _ ih => exact .cons record first (ih hrest)

theorem Leads.single {name : String} {node : Node} (h : step name node before = .ok after) :
    Leads step [(name, node)] before after :=
  .cons _ h .nil

/-- A field that is left out changes nothing, and one that is there is taken. -/
theorem Leads.optional {α : Type} (name : String) (write : α → Value) (read : Node → Read α)
    (set : Option α → ρ) {o : Option α}
    (hstep : ∀ node, step name node (set none) = (optionalOf read node).map set)
    (hwritten : ∀ a, write a ≠ .null) (hread : ∀ a ∈ o, read (write a).toNode = .ok a) :
    Leads step (entriesOf (optional name (o.map write))) (set none) (set o) := by
  cases o with
  | none => exact .nil
  | some a =>
    refine .single ?_
    rw [hstep, optionalOf_some (hwritten a) (hread a rfl)]
    rfl

/-- With names that are known and distinct, nothing keeps the steps from being taken. -/
theorem Leads.stepEntries {names : List String} {entries : List (String × Node)}
    (h : Leads step entries before after) (seen : List String) (hnames : ∀ e ∈ entries, e.1 ∈ names)
    (hnew : ∀ e ∈ entries, e.1 ∉ seen) (hdistinct : (entries.map (·.1)).Nodup) :
    stepEntries names step seen entries before = .ok after := by
  induction h generalizing seen with
  | nil => rfl
  | @cons name node rest before after record first _ ih =>
    obtain ⟨hname, hnames⟩ := List.forall_mem_cons.1 hnames
    obtain ⟨hfresh, hnew⟩ := List.forall_mem_cons.1 hnew
    obtain ⟨hother, hdistinct⟩ := List.nodup_cons.1 hdistinct
    have hseen : ∀ e ∈ rest, e.1 ∉ name :: seen := by
      intro e he hmem
      rcases List.mem_cons.1 hmem with heq | hold
      · exact hother (List.mem_map.2 ⟨e, he, heq⟩)
      · exact hnew e he hold
    rw [Manifest.stepEntries, if_neg (not_not_intro hname), if_neg hfresh, first]
    exact ih (name :: seen) hnames hseen hdistinct

end

/-! ## Objects -/

theorem entriesOf_append (fields rest : List (String × Value)) :
    entriesOf (fields ++ rest) = entriesOf fields ++ entriesOf rest := by
  induction fields with
  | nil => rfl
  | cons field fields ih =>
    obtain ⟨name, value⟩ := field
    rw [List.cons_append, entriesOf, entriesOf, ih, List.cons_append]

theorem names_entriesOf (fields : List (String × Value)) :
    (entriesOf fields).map (·.1) = fields.map (·.1) := by
  induction fields with
  | nil => rfl
  | cons field fields ih =>
    obtain ⟨name, value⟩ := field
    rw [entriesOf, List.map_cons, List.map_cons, ih]

/-- The name of a field that may be left out. -/
theorem names_optional (name : String) (o : Option Value) :
    ((optional name o).map (·.1)).Sublist [name] := by
  cases o with
  | none => exact List.nil_sublist _
  | some v => exact List.Sublist.refl _

theorem recordOf_object {ρ α : Type} {dialect : Dialect} {names : List String}
    {step : String → Node → ρ → Read ρ} {start : ρ} {finish : (String → Fault) → ρ → Read α}
    {fields : List (String × Value)} (record : ρ) (hnames : (fields.map (·.1)).Sublist names)
    (hdistinct : names.Nodup) (h : Leads step (entriesOf fields) start record) :
    recordOf dialect names step start finish (Value.object fields).toNode =
      finish .missingField record := by
  rw [← names_entriesOf] at hnames
  have hsteps := h.stepEntries []
    (fun e he => hnames.subset (List.mem_map_of_mem he)) (fun _ _ => List.not_mem_nil)
    (hdistinct.sublist hnames)
  have hfields : fieldsOf dialect names (Value.object fields).toNode =
      .ok ⟨entriesOf fields, true, false⟩ := rfl
  rw [recordOf, hfields]
  change (stepEntries names step [] (entriesOf fields) start >>= _) = _
  rw [hsteps]
  rfl

end MetricFacade.Manifest
