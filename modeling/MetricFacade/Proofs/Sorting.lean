import MetricFacade.Grouping

/-!
# Sorting keeps the elements and orders them

Results:

* `sortBy_perm`: nothing is lost and nothing added.
* `sortBy_sorted`: with a total and transitive test the result ascends.
* `sortBy_map`: elements are sorted as what stands for them.
-/
namespace MetricFacade

variable {α : Type} {le : α → α → Bool}

theorem insertBy_perm (a : α) (xs : List α) : (insertBy le a xs).Perm (a :: xs) := by
  induction xs with
  | nil => exact List.Perm.refl _
  | cons b rest ih =>
    rw [insertBy]
    split
    · exact List.Perm.refl _
    · exact (ih.cons b).trans (List.Perm.swap a b rest)

theorem sortBy_perm (xs : List α) : (sortBy le xs).Perm xs := by
  induction xs with
  | nil => exact List.Perm.refl _
  | cons a rest ih => exact (insertBy_perm a (sortBy le rest)).trans (ih.cons a)

@[simp] theorem mem_sortBy {xs : List α} {a : α} : a ∈ sortBy le xs ↔ a ∈ xs :=
  (sortBy_perm xs).mem_iff

@[simp] theorem length_sortBy (xs : List α) : (sortBy le xs).length = xs.length :=
  (sortBy_perm xs).length_eq

theorem insertBy_sorted (htotal : ∀ a b, le a b ∨ le b a)
    (htrans : ∀ a b c, le a b → le b c → le a c) (a : α) {xs : List α}
    (h : xs.Pairwise (le · ·)) : (insertBy le a xs).Pairwise (le · ·) := by
  induction xs with
  | nil => exact List.pairwise_singleton _ a
  | cons b rest ih =>
    obtain ⟨hb, hrest⟩ := List.pairwise_cons.1 h
    rw [insertBy]
    split
    · next hab =>
      refine List.pairwise_cons.2 ⟨?_, h⟩
      intro c hc
      rcases List.mem_cons.1 hc with rfl | hc
      · exact hab
      · exact htrans a b c hab (hb c hc)
    · next hab =>
      refine List.pairwise_cons.2 ⟨?_, ih hrest⟩
      intro c hc
      rcases List.mem_cons.1 ((insertBy_perm a rest).mem_iff.1 hc) with rfl | hc
      · exact (htotal c b).resolve_left hab
      · exact hb c hc

theorem sortBy_sorted (htotal : ∀ a b, le a b ∨ le b a)
    (htrans : ∀ a b c, le a b → le b c → le a c) (xs : List α) :
    (sortBy le xs).Pairwise (le · ·) := by
  induction xs with
  | nil => exact List.Pairwise.nil
  | cons a rest ih => exact insertBy_sorted htotal htrans a ih

theorem insertBy_map {β : Type} (f : β → α) (b : β) (ys : List β) :
    insertBy le (f b) (ys.map f) = (insertBy (fun x y => le (f x) (f y)) b ys).map f := by
  induction ys with
  | nil => rfl
  | cons c rest ih =>
    rw [List.map_cons, insertBy, insertBy]
    split
    · rfl
    · rw [ih, List.map_cons]

theorem sortBy_map {β : Type} (f : β → α) (ys : List β) :
    sortBy le (ys.map f) = (sortBy (fun x y => le (f x) (f y)) ys).map f := by
  induction ys with
  | nil => rfl
  | cons b rest ih =>
    have hstep : sortBy le ((b :: rest).map f) = insertBy le (f b) (sortBy le (rest.map f)) := rfl
    rw [hstep, ih, insertBy_map]
    rfl

end MetricFacade
