import MetricFacade.Cache.Basic
import Mathlib.Data.List.Nodup

/-!
# What a cache holds after an insertion

`insert` writes over an entry that is there; callers only ever insert under a key that has
none. Results:

* `get?_insert`: the new value under its key, every other key as before.
* `insert_fresh`: under a key without a value, one entry is added behind the others.
* `nodup_insert`: no key has two entries.
* `get?_of_obtained`, `eq_of_obtain?_failed`: what is there after an attempt.
-/
namespace MetricFacade.Cache

variable {κ α : Type} [DecidableEq κ]

theorem get?_eq_none_iff {c : Cache κ α} {key : κ} :
    c.get? key = none ↔ ∀ e ∈ c.entries, e.1 ≠ key := by
  simp [get?]

theorem get?_eq_some_mem {c : Cache κ α} {key : κ} {a : α} (h : c.get? key = some a) :
    (key, a) ∈ c.entries := by
  unfold get? at h
  obtain ⟨e, he, rfl⟩ := Option.map_eq_some_iff.1 h
  have hkey : e.1 = key := by simpa using List.find?_some he
  rw [← hkey]
  exact List.mem_of_find?_eq_some he

theorem insert_fresh {c : Cache κ α} {key : κ} (h : c.get? key = none) (a : α) :
    (c.insert key a).entries = c.entries ++ [(key, a)] := by
  unfold insert
  rw [List.filter_eq_self.2]
  intro e he
  simpa using get?_eq_none_iff.1 h e he

theorem get?_insert (c : Cache κ α) (key key' : κ) (a : α) :
    (c.insert key a).get? key' = if key' = key then some a else c.get? key' := by
  unfold insert get?
  rw [List.find?_append, List.find?_filter]
  by_cases h : key' = key
  · subst h
    rw [if_pos rfl, List.find?_eq_none.2 (by simp)]
    simp
  · have hkept : c.entries.find?
        (fun e => decide (decide (e.1 ≠ key) = true ∧ decide (e.1 = key') = true)) =
        c.entries.find? (fun e => e.1 = key') := by
      congr 1
      funext e
      by_cases he : e.1 = key' <;> simp [he, h]
    have hlast : List.find? (fun e : κ × α => e.1 = key') [(key, a)] = none := by
      simp [Ne.symm h]
    rw [hlast, Option.or_none, hkept, if_neg h]

theorem nodup_insert {c : Cache κ α} (h : (c.entries.map (·.1)).Nodup) (key : κ) (a : α) :
    ((c.insert key a).entries.map (·.1)).Nodup := by
  unfold insert
  rw [List.map_append, List.nodup_append]
  refine ⟨h.sublist (List.filter_sublist.map _), by simp, ?_⟩
  intro x hx y hy
  simp only [List.mem_map, List.mem_filter, decide_eq_true_eq] at hx
  obtain ⟨e, ⟨-, he⟩, rfl⟩ := hx
  simp only [List.map_cons, List.map_nil, List.mem_singleton] at hy
  rw [hy]
  exact he

/-- What a table lists under the numbers below `n`. -/
theorem get?_table {g : Nat → Option α} (n key : Nat) :
    (⟨(List.range n).filterMap fun k => (g k).map fun a => (k, a)⟩ : Cache Nat α).get? key =
      if key < n then g key else none := by
  unfold get?
  induction n with
  | zero => rfl
  | succ n ih =>
    dsimp only at ih ⊢
    have hlast : ([n].filterMap fun k => (g k).map fun a => (k, a)).find? (fun e => e.1 = key) =
        if key = n then (g n).map fun a => (n, a) else none := by
      cases hn : g n with
      | none => simp [hn]
      | some a => by_cases hkey : key = n <;> simp [hn, hkey, eq_comm]
    rw [List.range_succ, List.filterMap_append, List.find?_append, Option.map_or, ih, hlast]
    by_cases hlt : key < n
    · rw [if_pos hlt, if_neg (Nat.ne_of_lt hlt), if_pos (by omega), Option.map_none, Option.or_none]
    · rw [if_neg hlt, Option.none_or]
      by_cases hkey : key = n
      · subst hkey
        simp [Function.comp_def]
      · rw [if_neg hkey, if_neg (by omega), Option.map_none]

section

variable {ε σ : Type} {c c' : Cache κ α} {key : κ} {make : σ → σ × Attempt α ε} {s s' : σ}

/-- What was obtained is there from then on, and all else is as before. -/
theorem get?_of_obtained {a : α} (h : c.obtain? key make s = (c', s', .made a)) (key' : κ) :
    c'.get? key' = if key' = key then some a else c.get? key' := by
  unfold obtain? at h
  split at h
  · next b hthere =>
    cases h
    split
    · next hkey => rw [hkey, hthere]
    · rfl
  · split at h
    · cases h
      exact get?_insert c key key' a
    · next hother hattempt =>
      cases h
      exact (hother _ rfl).elim

/-- An attempt that fails leaves the cache as it was. -/
theorem eq_of_obtain?_failed {why : ε} (h : c.obtain? key make s = (c', s', .failed why)) :
    c' = c := by
  unfold obtain? at h
  split at h
  · cases h
  · split at h
    · cases h
    · cases h
      rfl

end

end MetricFacade.Cache
