import Mathlib.Data.List.Induction
import MetricFacade.Registry.Basic

/-!
# Registering all collectors or none

`registerAll` undoes a registration it cannot finish by removing stand-ins, which share
nothing with the collectors but their descriptors, and it never looks at what a removal
answers. What makes this right is that a registry takes a collector only if neither its key
nor any of its ids is there: so each stand-in, removed last one first, meets exactly the
collector it stands for, and takes away no id that was there before. Nothing is assumed of
the numbers that stand for identities; they may collide.

Results:

* `register_ok`, `register_error`: what one registration does to collectors and ids.
* `unregister_added`: removing the stand-in of what was added last.
* `rollback`: removing everything that was added, in reverse.
* `registerAll_all_or_nothing`: the outcome of a whole list.
-/
namespace MetricFacade.Registry

variable {σ : Type} [Digest]

/-! ## One collector -/

@[simp] theorem ids_standIn (c : Collector σ) : c.standIn.ids = c.ids := rfl

@[simp] theorem key_standIn (c : Collector σ) : c.standIn.key = c.key := rfl

theorem examine_ok {taken : List UInt64} {ds : List Descriptor} {own : List UInt64}
    {dims dims' : Dimensions} (h : examine taken own ds dims = (dims', .ok ())) :
    ∀ d ∈ ds, d.id ∉ taken := by
  induction ds generalizing own dims with
  | nil => intro d hd; cases hd
  | cons d ds ih =>
    simp only [examine] at h
    split at h
    · cases h
    · rename_i hfree
      split at h
      · cases h
      · split at h
        · cases h
        · intro e he
          rcases List.mem_cons.1 he with rfl | he
          · exact hfree
          · exact ih h e he

/-- A collector is added behind the others, and its key and its ids are new. -/
theorem register_ok {r r' : Registry σ} {c : Collector σ} (h : r.register c = (r', .ok ())) :
    r'.collectors = r.collectors ++ [c] ∧ r'.ids = r.ids ++ c.ids ∧
      (∀ d ∈ r.collectors, d.key ≠ c.key) ∧ ∀ id ∈ c.ids, id ∉ r.ids := by
  unfold register at h
  split at h
  · cases h
  · rename_i dims hexamine
    split at h
    · cases h
    · rename_i hkey
      cases h
      refine ⟨rfl, rfl, ?_, ?_⟩
      · intro d hd hdc
        exact hkey (List.any_eq_true.2 ⟨d, hd, by simpa using hdc⟩)
      · intro id hid
        simp only [Collector.ids, List.mem_eraseDups, List.mem_map] at hid
        obtain ⟨d, hd, rfl⟩ := hid
        exact examine_ok hexamine d hd

/-- A refusal adds nothing. -/
theorem register_error {r r' : Registry σ} {c : Collector σ} {why : Rejection}
    (h : r.register c = (r', .error why)) : r'.collectors = r.collectors ∧ r'.ids = r.ids := by
  unfold register at h
  split at h
  · cases h; exact ⟨rfl, rfl⟩
  · split at h
    · cases h; exact ⟨rfl, rfl⟩
    · cases h

/-- The stand-in of the collector that was added last takes that one away again, with its
ids, and nothing else. -/
theorem unregister_added {r r' m : Registry σ} {c : Collector σ}
    (h : r.register c = (r', .ok ())) (hcollectors : m.collectors = r'.collectors)
    (hids : m.ids = r'.ids) :
    m.unregister c.standIn =
      ({ m with collectors := r.collectors, ids := r.ids }, .ok ()) := by
  obtain ⟨hc, hi, hkey, hnew⟩ := register_ok h
  have hthere : m.collectors.any (·.key = c.key) = true := by
    rw [hcollectors, hc]
    exact List.any_eq_true.2 ⟨c, by simp, by simp⟩
  have hothers : m.collectors.filter (·.key ≠ c.key) = r.collectors := by
    rw [hcollectors, hc, List.filter_append]
    have hlast : [c].filter (·.key ≠ c.key) = [] := by simp
    rw [hlast, List.append_nil, List.filter_eq_self]
    intro d hd
    simpa using hkey d hd
  have hrest : m.ids.filter (· ∉ c.ids) = r.ids := by
    rw [hids, hi, List.filter_append]
    have hlast : c.ids.filter (· ∉ c.ids) = [] := by simp
    rw [hlast, List.append_nil, List.filter_eq_self]
    intro id hid
    simp only [decide_not, Bool.not_eq_eq_eq_not, Bool.not_true, decide_eq_false_iff_not]
    exact fun hidc => hnew id hidc hid
  unfold unregister
  rw [key_standIn, ids_standIn, if_pos hthere, hothers, hrest]

/-! ## A list of collectors -/

/-- The registry after the collectors were offered to it in order. -/
def registerEach (r : Registry σ) (cs : List (Collector σ)) : Registry σ :=
  cs.foldl (fun r c => (r.register c).1) r

/-- Offered in order, each collector is taken. -/
def TakesEach (r : Registry σ) : List (Collector σ) → Prop
  | [] => True
  | c :: rest => (r.register c).2 = .ok () ∧ TakesEach (r.register c).1 rest

/-- Each removal, after those before it, succeeds. -/
def GivesUpEach {τ : Type} (r : Registry σ) : List (Collector τ) → Prop
  | [] => True
  | c :: rest => (r.unregister c).2 = .ok () ∧ GivesUpEach (r.unregister c).1 rest

theorem takesEach_append {r : Registry σ} {cs : List (Collector σ)} {c : Collector σ} :
    r.TakesEach (cs ++ [c]) ↔
      r.TakesEach cs ∧ ((r.registerEach cs).register c).2 = .ok () := by
  induction cs generalizing r with
  | nil => simp [TakesEach, registerEach]
  | cons d rest ih =>
    simp only [List.cons_append, TakesEach, ih, registerEach, and_assoc, List.foldl_cons]

theorem registerEach_append (r : Registry σ) (cs : List (Collector σ)) (c : Collector σ) :
    r.registerEach (cs ++ [c]) = ((r.registerEach cs).register c).1 := by
  simp [registerEach, List.foldl_append]

/-- The collectors a registry took are in it, with their ids. -/
theorem contents_registerEach {r : Registry σ} {cs : List (Collector σ)} (h : r.TakesEach cs) :
    (r.registerEach cs).collectors = r.collectors ++ cs ∧
      (r.registerEach cs).ids = r.ids ++ cs.flatMap (·.ids) := by
  induction cs generalizing r with
  | nil => simp [registerEach]
  | cons c rest ih =>
    obtain ⟨hc, hi, -, -⟩ := register_ok (Prod.ext (Eq.refl (r.register c).1) h.1)
    obtain ⟨hcs, his⟩ := ih h.2
    refine ⟨hcs.trans ?_, his.trans ?_⟩
    · rw [hc, List.append_assoc, List.singleton_append]
    · rw [hi, List.append_assoc, List.flatMap_cons]

/-! ## Taking them back -/

/-- Whatever was added can be removed again in reverse, and then nothing of it is left. -/
theorem rollback {r m : Registry σ} {cs : List (Collector σ)} (h : r.TakesEach cs)
    (hcollectors : m.collectors = (r.registerEach cs).collectors)
    (hids : m.ids = (r.registerEach cs).ids) :
    m.GivesUpEach (cs.reverse.map (·.standIn)) ∧
      (m.unregisterEach (cs.reverse.map (·.standIn))).collectors = r.collectors ∧
      (m.unregisterEach (cs.reverse.map (·.standIn))).ids = r.ids := by
  induction cs using List.reverseRecOn generalizing m with
  | nil => exact ⟨trivial, hcollectors, hids⟩
  | append_singleton cs c ih =>
    obtain ⟨hcs, hc⟩ := takesEach_append.1 h
    rw [registerEach_append] at hcollectors hids
    have hremoved := unregister_added (Prod.ext rfl hc) hcollectors hids
    obtain ⟨hgives, hrest⟩ := ih (m := (m.unregister c.standIn).1) hcs
      (by rw [hremoved]) (by rw [hremoved])
    rw [List.reverse_append, List.reverse_singleton, List.singleton_append, List.map_cons]
    exact ⟨⟨by rw [hremoved], hgives⟩, hrest⟩

/-- How offering `cs` to `r` may end: with all of them added, or refused for the first one that
the registry does not take, and then with nothing added. -/
def Ends (r : Registry σ) (cs : List (Collector σ)) : Registry σ × Except Rejection Unit → Prop
  | (r', .ok ()) =>
    r.TakesEach cs ∧ r'.collectors = r.collectors ++ cs ∧ r'.ids = r.ids ++ cs.flatMap (·.ids)
  | (r', .error why) =>
    ∃ earlier c rest, cs = earlier ++ c :: rest ∧ r.TakesEach earlier ∧
      ((r.registerEach earlier).register c).2 = .error why ∧
      (r.registerEach (earlier ++ [c])).GivesUpEach (earlier.reverse.map (·.standIn)) ∧
      r' = (r.registerEach (earlier ++ [c])).unregisterEach (earlier.reverse.map (·.standIn)) ∧
      r'.collectors = r.collectors ∧ r'.ids = r.ids

theorem ends_registerFrom {r : Registry σ} {earlier : List (Collector σ)}
    (h : r.TakesEach earlier) (cs : List (Collector σ)) :
    r.Ends (earlier ++ cs)
      (registerFrom (earlier.reverse.map (·.standIn)) (r.registerEach earlier) cs) := by
  induction cs generalizing earlier with
  | nil =>
    obtain ⟨hc, hi⟩ := contents_registerEach h
    rw [List.append_nil]
    exact ⟨h, hc, hi⟩
  | cons c rest ih =>
    unfold registerFrom
    split
    · rename_i m why hrefused
      obtain ⟨hc, hi⟩ := register_error hrefused
      obtain ⟨hgives, hcollectors, hids⟩ := rollback h hc hi
      have hm : r.registerEach (earlier ++ [c]) = m := by
        rw [registerEach_append, hrefused]
      refine ⟨earlier, c, rest, rfl, h, by rw [hrefused], ?_, ?_, hcollectors, hids⟩
      · rw [hm]; exact hgives
      · rw [hm]
    · rename_i m htaken
      have hm : r.registerEach (earlier ++ [c]) = m := by
        rw [registerEach_append, htaken]
      have hnext := ih (takesEach_append.2 ⟨h, by rw [htaken]⟩)
      rw [hm, List.reverse_append, List.append_assoc] at hnext
      exact hnext

/-- **All or nothing.** A list of collectors is registered as a whole: then exactly these are
added, with their ids. Or it is refused for the reason the registry has against the first
collector it does not take once the earlier ones are in; then each of those can be removed
again, and collectors and ids are what they were. -/
theorem registerAll_all_or_nothing (r : Registry σ) (cs : List (Collector σ)) :
    r.Ends cs (r.registerAll cs) := by
  have hnone : r.TakesEach [] := trivial
  exact ends_registerFrom hnone cs

end MetricFacade.Registry
