import MetricFacade.Proofs.Registry.Contents
import MetricFacade.Registry.Requests

/-!
# What a refused registration leaves behind

Removing collectors again does not make a registry forget the dimensions of their names. So
a registry that has refused a list of collectors differs from one that was never offered the
list, and requests can tell the two apart: one that gives a name from the list another
dimension is refused only by the first. No other request can.

Results:

* `get?_note`: a name that is known keeps its dimension.
* `examine_trails`, `Trails.answer`: two registries that differ in what one of them knows in
  addition give the same answer, and differ in the same way after it.
* `answers_after_refusal`: what requests can see of a refused list, and what they cannot.
-/
namespace MetricFacade.Registry

variable {σ : Type}

/-! ## Dimensions that are known -/

theorem get?_note (dims : Dimensions) (name : String) (dim : Dimension) (other : String) :
    (dims.note name dim).get? other =
      if other = name then (dims.get? name).or (some dim) else dims.get? other := by
  unfold Dimensions.note
  cases hname : dims.get? name with
  | some known =>
    rw [if_pos (by rfl)]
    split
    · next heq => rw [heq, hname, Option.some_or]
    · rfl
  | none =>
    rw [if_neg (by simp), Option.none_or]
    unfold Dimensions.get? at hname ⊢
    rw [List.find?_append]
    split
    · next heq =>
      subst heq
      rw [Option.map_eq_none_iff.1 hname]
      simp
    · next hne => simp [Ne.symm hne]

theorem get?_note_of_known {dims : Dimensions} {name other : String} {dim known : Dimension}
    (h : dims.get? other = some known) : (dims.note name dim).get? other = some known := by
  rw [get?_note]
  split
  · next heq => rw [← heq, h, Option.some_or]
  · exact h

section

variable [Digest]

theorem get?_examine (taken own : List UInt64) (ds : List Descriptor) {dims : Dimensions}
    {name : String} {known : Dimension} (h : dims.get? name = some known) :
    (examine taken own ds dims).1.get? name = some known := by
  induction ds generalizing own dims with
  | nil => exact h
  | cons d ds ih =>
    unfold examine
    split
    · exact h
    · split
      · exact h
      · dsimp only
        split
        · exact get?_note_of_known h
        · exact ih _ (get?_note_of_known h)

/-- Descriptors that pass have the dimensions their names are known with. -/
theorem dimension_of_examine_ok {taken own : List UInt64} {ds : List Descriptor}
    {dims : Dimensions} (h : (examine taken own ds dims).2 = .ok ()) :
    ∀ d ∈ ds, ∀ known, dims.get? d.name = some known → d.dimension = known := by
  induction ds generalizing own dims with
  | nil => intro d hd; cases hd
  | cons d ds ih =>
    unfold examine at h
    split at h
    · cases h
    · split at h
      · cases h
      · rename_i hsame
        dsimp only at h
        split at h
        · cases h
        · intro e he known hknown
          rcases List.mem_cons.1 he with rfl | he
          · rw [hknown, Option.any_some, decide_eq_true_eq, not_not] at hsame
            exact hsame.symm
          · exact ih h e he known (get?_note_of_known hknown)

theorem examine_of_register_ok {r : Registry σ} {c : Collector σ}
    (h : (r.register c).2 = .ok ()) :
    (examine r.ids [] c.descriptors r.dimensions).2 = .ok () := by
  unfold register at h
  split at h
  · cases h
  · next heq => rw [heq]

theorem get?_register {r : Registry σ} {c : Collector σ} {name : String} {known : Dimension}
    (h : r.dimensions.get? name = some known) :
    (r.register c).1.dimensions.get? name = some known := by
  have hexamine := get?_examine r.ids [] c.descriptors h
  unfold register
  split
  · next heq => rw [heq] at hexamine; exact hexamine
  · next heq =>
    rw [heq] at hexamine
    split
    · exact hexamine
    · exact hexamine

@[simp] theorem dimensions_unregister {τ : Type} (r : Registry σ) (c : Collector τ) :
    (r.unregister c).1.dimensions = r.dimensions := by
  unfold unregister
  split
  · rfl
  · rfl

@[simp] theorem dimensions_unregisterEach {τ : Type} (r : Registry σ) (cs : List (Collector τ)) :
    (r.unregisterEach cs).dimensions = r.dimensions := by
  unfold unregisterEach
  induction cs generalizing r with
  | nil => rfl
  | cons c cs ih => rw [List.foldl_cons, ih, dimensions_unregister]

theorem get?_registerFrom {before : List (Collector Unit)} {r : Registry σ}
    {cs : List (Collector σ)} {name : String} {known : Dimension}
    (h : r.dimensions.get? name = some known) :
    (registerFrom before r cs).1.dimensions.get? name = some known := by
  induction cs generalizing before r with
  | nil => exact h
  | cons c rest ih =>
    have hregister := get?_register (c := c) h
    unfold registerFrom
    split
    · next heq =>
      rw [heq] at hregister
      rw [dimensions_unregisterEach]
      exact hregister
    · next heq =>
      rw [heq] at hregister
      exact ih hregister

/-! ## Two registries, one of which knows more -/

/-- `t` is like `r` but for what it knows in addition: the dimensions `extra`, of names that
`r` knows nothing of. -/
structure Trails (extra : String → Option Dimension) (r t : Registry σ) : Prop where
  collectors : t.collectors = r.collectors
  ids : t.ids = r.ids
  dimensions : ∀ name, t.dimensions.get? name = (r.dimensions.get? name).or (extra name)

variable {extra : String → Option Dimension}

/-- As long as the descriptors have the dimensions known in addition, these make no difference. -/
theorem examine_trails (taken own : List UInt64) {ds : List Descriptor} {dims more : Dimensions}
    (hmore : ∀ name, more.get? name = (dims.get? name).or (extra name))
    (hds : ∀ d ∈ ds, ∀ dim ∈ extra d.name, d.dimension = dim) :
    (examine taken own ds more).2 = (examine taken own ds dims).2 ∧
      ∀ name, (examine taken own ds more).1.get? name =
        ((examine taken own ds dims).1.get? name).or (extra name) := by
  induction ds generalizing own dims more with
  | nil => exact ⟨rfl, hmore⟩
  | cons d ds ih =>
    have hd := hds d List.mem_cons_self
    have hknown : (more.get? d.name).any (· ≠ d.dimension) =
        (dims.get? d.name).any (· ≠ d.dimension) := by
      rw [hmore]
      cases hdims : dims.get? d.name with
      | some known => rfl
      | none =>
        cases hextra : extra d.name with
        | none => rfl
        | some dim => simp [hd dim hextra]
    have hnoted : ∀ name, (more.note d.name d.dimension).get? name =
        ((dims.note d.name d.dimension).get? name).or (extra name) := by
      intro name
      rw [get?_note, get?_note]
      split
      · next heq =>
        subst heq
        rw [hmore]
        cases dims.get? d.name with
        | some known => rfl
        | none =>
          cases hextra : extra d.name with
          | none => rfl
          | some dim => simp [hd dim hextra]
      · exact hmore name
    unfold examine
    rw [hknown]
    split
    · exact ⟨rfl, hmore⟩
    · split
      · exact ⟨rfl, hmore⟩
      · dsimp only
        split
        · exact ⟨rfl, hnoted⟩
        · exact ih _ hnoted fun e he => hds e (List.mem_cons_of_mem d he)

namespace Trails

variable {r t : Registry σ}

theorem register (h : Trails extra r t) {c : Collector σ}
    (hc : ∀ d ∈ c.descriptors, ∀ dim ∈ extra d.name, d.dimension = dim) :
    (t.register c).2 = (r.register c).2 ∧ Trails extra (r.register c).1 (t.register c).1 := by
  obtain ⟨hanswer, hdims⟩ := examine_trails r.ids [] h.dimensions hc
  unfold Registry.register
  rw [h.ids, h.collectors]
  generalize examine r.ids [] c.descriptors t.dimensions = more at hanswer hdims
  generalize examine r.ids [] c.descriptors r.dimensions = less at hanswer hdims
  obtain ⟨moreDims, moreAnswer⟩ := more
  obtain ⟨lessDims, lessAnswer⟩ := less
  cases hanswer
  cases moreAnswer with
  | error why => exact ⟨rfl, rfl, rfl, hdims⟩
  | ok _ =>
    dsimp only
    split
    · exact ⟨rfl, rfl, rfl, hdims⟩
    · exact ⟨rfl, rfl, rfl, hdims⟩

theorem unregister {τ : Type} (h : Trails extra r t) (c : Collector τ) :
    (t.unregister c).2 = (r.unregister c).2 ∧ Trails extra (r.unregister c).1 (t.unregister c).1 := by
  unfold Registry.unregister
  rw [h.collectors, h.ids]
  split
  · exact ⟨rfl, rfl, rfl, h.dimensions⟩
  · exact ⟨rfl, h⟩

theorem unregisterEach {τ : Type} (h : Trails extra r t) (cs : List (Collector τ)) :
    Trails extra (r.unregisterEach cs) (t.unregisterEach cs) := by
  unfold Registry.unregisterEach
  induction cs generalizing r t with
  | nil => exact h
  | cons c cs ih => exact ih (h.unregister c).2

theorem registerFrom (h : Trails extra r t) {cs : List (Collector σ)}
    (hcs : ∀ d ∈ cs.flatMap (·.descriptors), ∀ dim ∈ extra d.name, d.dimension = dim)
    (before : List (Collector Unit)) :
    (registerFrom before t cs).2 = (registerFrom before r cs).2 ∧
      Trails extra (registerFrom before r cs).1 (registerFrom before t cs).1 := by
  induction cs generalizing before r t with
  | nil => exact ⟨rfl, h⟩
  | cons c rest ih =>
    rw [List.flatMap_cons] at hcs
    obtain ⟨hanswer, hnext⟩ := h.register fun d hd => hcs d (List.mem_append_left _ hd)
    unfold Registry.registerFrom
    generalize t.register c = more at hanswer hnext
    generalize r.register c = less at hanswer hnext
    obtain ⟨t', moreAnswer⟩ := more
    obtain ⟨r', lessAnswer⟩ := less
    cases hanswer
    cases moreAnswer with
    | error why => exact ⟨rfl, hnext.unregisterEach before⟩
    | ok _ => exact ih hnext (fun d hd => hcs d (List.mem_append_right _ hd)) _

/-- A request that gives no name another dimension than the one known in addition. -/
theorem answer (h : Trails extra r t) {q : Request σ}
    (hq : ∀ d ∈ q.offered, ∀ dim ∈ extra d.name, d.dimension = dim) :
    (t.answer q).2 = (r.answer q).2 ∧ Trails extra (r.answer q).1 (t.answer q).1 := by
  cases q with
  | register c => exact h.register hq
  | unregister c => exact h.unregister c
  | registerAll cs => exact h.registerFrom hq []

theorem answers (h : Trails extra r t) {later : List (Request σ)}
    (hlater : ∀ q ∈ later, ∀ d ∈ q.offered, ∀ dim ∈ extra d.name, d.dimension = dim) :
    t.answers later = r.answers later := by
  induction later generalizing r t with
  | nil => rfl
  | cons q rest ih =>
    obtain ⟨hanswer, hnext⟩ := h.answer (hlater q List.mem_cons_self)
    rw [Registry.answers, Registry.answers, hanswer,
      ih hnext fun p hp => hlater p (List.mem_cons_of_mem q hp)]

end Trails

/-! ## After a refusal -/

/-- What `t` knows of a name that `r` knows nothing of. -/
def residue (r t : Registry σ) (name : String) : Option Dimension :=
  if (r.dimensions.get? name).isSome then none else t.dimensions.get? name

theorem trails_of_refused {r t : Registry σ} {cs : List (Collector σ)} {why : Rejection}
    (h : r.registerAll cs = (t, .error why)) : Trails (residue r t) r t := by
  obtain ⟨hcollectors, hids⟩ := collectors_registerAll_error h
  have hknown : ∀ name known, r.dimensions.get? name = some known →
      t.dimensions.get? name = some known := by
    intro name known hname
    have hkept : (r.registerAll cs).1.dimensions.get? name = some known := get?_registerFrom hname
    rwa [h] at hkept
  refine ⟨hcollectors, hids, ?_⟩
  intro name
  unfold residue
  cases hname : r.dimensions.get? name with
  | some known => exact hknown name known hname
  | none => rfl

/-- **What a refused list leaves behind** is the dimensions of names that were not known. After
a list of collectors was refused,

* requests that give these names the same dimensions, and otherwise any requests, are answered
  as if the list had never been offered;
* a collector that would have been taken is taken exactly if it gives them the same dimensions. -/
theorem answers_after_refusal {r t : Registry σ} {cs : List (Collector σ)} {why : Rejection}
    (h : r.registerAll cs = (t, .error why)) :
    (∀ later : List (Request σ),
      (∀ q ∈ later, ∀ d ∈ q.offered, ∀ dim ∈ residue r t d.name, d.dimension = dim) →
        t.answers later = r.answers later) ∧
    (∀ c : Collector σ, (r.register c).2 = .ok () →
      ((t.register c).2 = .ok () ↔
        ∀ d ∈ c.descriptors, ∀ dim ∈ residue r t d.name, d.dimension = dim)) := by
  have htrails := trails_of_refused h
  refine ⟨fun later hlater => htrails.answers hlater, fun c hc => ⟨?_, ?_⟩⟩
  · intro htaken d hd dim hdim
    have hknown : t.dimensions.get? d.name = some dim := by
      unfold residue at hdim
      split at hdim
      · cases hdim
      · exact hdim
    exact dimension_of_examine_ok (examine_of_register_ok htaken) d hd dim hknown
  · intro hsame
    rw [(htrails.register hsame).1, hc]

end

/-- A collector of one descriptor. -/
def single (name help : String) : Collector Unit :=
  ⟨[{ name := name, help := help }], ()⟩

/-- A registry with one name taken. -/
def held : Registry Unit :=
  (({} : Registry Unit).register (single "taken" "old")).1

/-- The registry after a list was refused for its second collector. -/
def refused : Registry Unit :=
  (held.registerAll [single "fresh" "old", single "taken" "old"]).1

theorem held_refuses : held.registerAll [single "fresh" "old", single "taken" "old"] =
    (refused, .error .alreadyRegistered) :=
  Prod.ext rfl (by decide +kernel)

theorem refused_answers :
    held.registerAll [single "fresh" "old", single "taken" "old"] =
        (refused, .error .alreadyRegistered) ∧
      (∀ q ∈ [.register (single "fresh" "old"), .unregister (single "taken" "old")],
        ∀ d ∈ Request.offered q, ∀ dim ∈ residue held refused d.name, d.dimension = dim) ∧
      refused.answers [.register (single "fresh" "old"), .unregister (single "taken" "old")] =
        held.answers [.register (single "fresh" "old"), .unregister (single "taken" "old")] := by
  have hsame : ∀ q ∈ [.register (single "fresh" "old"), .unregister (single "taken" "old")],
      ∀ d ∈ Request.offered q, ∀ dim ∈ residue held refused d.name, d.dimension = dim := by
    decide +kernel
  exact ⟨held_refuses, hsame, (answers_after_refusal held_refuses).1 _ hsame⟩

/-- A refused list may be seen by a later request, for a name that it has left free. -/
theorem not_all_refusals_forgotten :
    ¬ ∀ (r t : Registry Unit) cs why later, r.registerAll cs = (t, .error why) →
      t.answers later = r.answers later := by
  intro hall
  exact absurd (hall _ _ _ _ [.register (single "fresh" "new")] held_refuses) (by decide +kernel)

end MetricFacade.Registry
