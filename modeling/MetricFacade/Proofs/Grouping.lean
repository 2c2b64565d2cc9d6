import Mathlib.Algebra.GroupWithZero.Nat
import Mathlib.Data.List.Nodup
import Mathlib.Data.List.Perm.Basic
import Mathlib.Data.String.Basic
import MetricFacade.Grouping
import MetricFacade.Proofs.Sorting

/-!
# What a group holds

Every key that occurs has one group, and the group is the part of the list under that key.

Results:

* `mem_groupBy`: the groups are known from the list alone, whatever orders the keys.
* `nodup_keys_groupBy`: no key has two groups.
* `groups_single_iff`: all groups are single exactly when the keys are distinct.
* `groups_perm`, `sum_groups`: together the groups are the list in another order.
* `flatMap_guarded`: what is told of some groups only.
* `groupBy_named`: names that tell the keys apart group as the keys do.
* `flatMap_groups_perm`: a reordered list has the same groups, each reordered.
* `distinctKeys_ascending`, `distinctTexts_ascending`, `textKeys_ascending`: the keys ascend.
-/
namespace MetricFacade

/-! ## Each element once -/

theorem nodup_eraseDups {α : Type} [DecidableEq α] (l : List α) : l.eraseDups.Nodup := by
  match l with
  | [] => exact List.nodup_nil
  | a :: rest =>
    have hshorter : (rest.filter fun b => !b == a).length < rest.length + 1 :=
      Nat.lt_succ_of_le (List.length_filter_le _ _)
    rw [List.eraseDups_cons, List.nodup_cons]
    refine ⟨?_, nodup_eraseDups _⟩
    simp
termination_by l.length

/-- Erasing repetitions leaves more than one element where two differ. -/
theorem one_lt_length_eraseDups {α : Type} [DecidableEq α] {l : List α} :
    1 < l.eraseDups.length ↔ ∃ a ∈ l, ∃ b ∈ l, a ≠ b := by
  constructor
  · intro h
    obtain ⟨a, b, rest, hl⟩ : ∃ a b rest, l.eraseDups = a :: b :: rest := by
      match hl : l.eraseDups with
      | [] | [_] => simp [hl] at h
      | a :: b :: rest => exact ⟨a, b, rest, rfl⟩
    have hnodup := nodup_eraseDups l
    rw [hl, List.nodup_cons] at hnodup
    refine ⟨a, ?_, b, ?_, ?_⟩
    · rw [← List.mem_eraseDups, hl]; simp
    · rw [← List.mem_eraseDups, hl]; simp
    · rintro rfl; exact hnodup.1 (by simp)
  · rintro ⟨a, ha, b, hb, hab⟩
    rw [← List.mem_eraseDups] at ha hb
    match hl : l.eraseDups with
    | [] => rw [hl] at ha; cases ha
    | [c] =>
      rw [hl, List.mem_singleton] at ha hb
      exact absurd (ha.trans hb.symm) hab
    | _ :: _ :: _ => simp

/-- Picking some elements does not change which of them come first. -/
theorem eraseDups_filter {α : Type} [DecidableEq α] (p : α → Bool) (l : List α) :
    (l.filter p).eraseDups = l.eraseDups.filter p := by
  match l with
  | [] => rfl
  | a :: rest =>
    have hshorter : (rest.filter fun b => !b == a).length < rest.length + 1 :=
      Nat.lt_succ_of_le (List.length_filter_le _ _)
    have hrest := eraseDups_filter p (rest.filter fun b => !b == a)
    rw [List.eraseDups_cons]
    by_cases ha : p a
    · rw [List.filter_cons_of_pos ha, List.filter_cons_of_pos ha, List.eraseDups_cons,
        List.filter_comm, hrest]
    · have hother : (rest.filter fun b => !b == a).filter p = rest.filter p := by
        rw [List.filter_filter]
        refine List.filter_congr fun b _ => ?_
        have hne : p b → b ≠ a := by
          rintro hb rfl
          exact ha hb
        by_cases hb : p b
        · simp [hb, hne hb]
        · simp [hb]
      rw [List.filter_cons_of_neg ha, List.filter_cons_of_neg ha, ← hrest, hother]
termination_by l.length

theorem eraseDups_perm {α : Type} [DecidableEq α] {l m : List α} (h : l.Perm m) :
    l.eraseDups.Perm m.eraseDups := by
  rw [List.perm_ext_iff_of_nodup (nodup_eraseDups l) (nodup_eraseDups m)]
  intro a
  rw [List.mem_eraseDups, List.mem_eraseDups, h.mem_iff]

/-- Different elements stay different under other names. -/
theorem eraseDups_map {α β : Type} [DecidableEq α] [DecidableEq β] {f : α → β} {l : List α}
    (h : ∀ a ∈ l, ∀ b ∈ l, f a = f b → a = b) : (l.map f).eraseDups = l.eraseDups.map f := by
  match l with
  | [] => rfl
  | a :: rest =>
    have hshorter : (rest.filter fun b => !b == a).length < rest.length + 1 :=
      Nat.lt_succ_of_le (List.length_filter_le _ _)
    have hother : (rest.map f).filter (fun c => !c == f a) =
        (rest.filter fun b => !b == a).map f := by
      rw [List.filter_map]
      congr 1
      refine List.filter_congr fun b hb => ?_
      have hsame : f b = f a ↔ b = a :=
        ⟨h b (List.mem_cons_of_mem a hb) a List.mem_cons_self, congrArg f⟩
      simp [hsame]
    rw [List.map_cons, List.eraseDups_cons, List.eraseDups_cons, List.map_cons, hother,
      eraseDups_map fun b hb c hc => h b (List.mem_cons_of_mem a (List.mem_filter.1 hb).1) c
        (List.mem_cons_of_mem a (List.mem_filter.1 hc).1)]
termination_by l.length

/-! ## Groups -/

variable {α κ : Type} [DecidableEq κ] {le : κ → κ → Bool} {key : α → κ} {xs : List α}

theorem mem_distinctKeys {keys : List κ} {k : κ} : k ∈ distinctKeys le keys ↔ k ∈ keys := by
  simp [distinctKeys]

theorem nodup_distinctKeys (keys : List κ) : (distinctKeys le keys).Nodup := by
  unfold distinctKeys
  rw [(sortBy_perm _).nodup_iff]
  exact nodup_eraseDups keys

theorem distinctKeys_ascending (htotal : ∀ a b, le a b ∨ le b a)
    (htrans : ∀ a b c, le a b → le b c → le a c) (keys : List κ) :
    (distinctKeys le keys).Pairwise fun a b => le a b ∧ a ≠ b :=
  (sortBy_sorted htotal htrans keys.eraseDups).and (nodup_distinctKeys keys)

theorem mem_groupBy {k : κ} {ys : List α} :
    (k, ys) ∈ groupBy le key xs ↔
      (∃ x ∈ xs, key x = k) ∧ ys = xs.filter fun x => key x = k := by
  simp only [groupBy, List.mem_map, mem_distinctKeys, Prod.mk.injEq]
  constructor
  · rintro ⟨_, hk, rfl, rfl⟩
    exact ⟨hk, rfl⟩
  · rintro ⟨hk, rfl⟩
    exact ⟨k, hk, rfl, rfl⟩

/-- Groups are formed by the keys alone. -/
theorem groupBy_map {β : Type} (f : β → α) (ys : List β) :
    groupBy le key (ys.map f) =
      (groupBy le (fun y => key (f y)) ys).map fun group => (group.1, group.2.map f) := by
  unfold groupBy
  rw [List.map_map, List.map_map]
  refine List.map_congr_left fun k _ => ?_
  rw [List.filter_map]
  rfl

/-- Keys that are told apart by their names are grouped by their names. -/
theorem groupBy_named {ν : Type} [DecidableEq ν] {le' : ν → ν → Bool} (name : κ → ν)
    (hle : ∀ a b, le a b = le' (name a) (name b))
    (h : ∀ x ∈ xs, ∀ y ∈ xs, name (key x) = name (key y) → key x = key y) :
    groupBy le' (fun x => name (key x)) xs =
      (groupBy le key xs).map fun group => (name group.1, group.2) := by
  have hkeys : distinctKeys le' (xs.map fun x => name (key x)) =
      (distinctKeys le (xs.map key)).map name := by
    have hsame : ∀ a ∈ xs.map key, ∀ b ∈ xs.map key, name a = name b → a = b := by
      intro a ha b hb
      obtain ⟨x, hx, rfl⟩ := List.mem_map.1 ha
      obtain ⟨y, hy, rfl⟩ := List.mem_map.1 hb
      exact h x hx y hy
    have hnames : xs.map (fun x => name (key x)) = (xs.map key).map name := by
      rw [List.map_map]
      rfl
    unfold distinctKeys
    rw [hnames, eraseDups_map hsame, sortBy_map, ← funext₂ hle]
  unfold groupBy
  rw [hkeys, List.map_map, List.map_map]
  refine List.map_congr_left fun k hk => ?_
  obtain ⟨x, hx, rfl⟩ := List.mem_map.1 (mem_distinctKeys.1 hk)
  simp only [Function.comp_apply, Prod.mk.injEq, true_and]
  exact List.filter_congr fun y hy => decide_eq_decide.2 ⟨h y hy x hx, congrArg name⟩

theorem groupBy_eq_nil : groupBy le key xs = [] ↔ xs = [] := by
  constructor
  · intro h
    rw [List.eq_nil_iff_forall_not_mem]
    intro x hx
    have hgroup : (key x, _) ∈ groupBy le key xs := mem_groupBy.2 ⟨⟨x, hx, rfl⟩, rfl⟩
    rw [h] at hgroup
    cases hgroup
  · rintro rfl
    rfl

theorem keys_groupBy : (groupBy le key xs).map (·.1) = distinctKeys le (xs.map key) := by
  simp [groupBy, Function.comp_def]

theorem nodup_keys_groupBy : ((groupBy le key xs).map (·.1)).Nodup := by
  rw [keys_groupBy]
  exact nodup_distinctKeys _

theorem count_keys (k : κ) :
    (xs.map key).count k = (xs.filter fun x => key x = k).length := by
  rw [List.count_eq_countP, List.countP_map, List.countP_eq_length_filter]
  congr 1

/-- Elements that share a key sit in one group. -/
theorem groups_single_iff :
    (∀ k ys, (k, ys) ∈ groupBy le key xs → ys.length ≤ 1) ↔ (xs.map key).Nodup := by
  rw [List.nodup_iff_count_le_one]
  constructor
  · intro h k
    rw [count_keys]
    by_cases hk : ∃ x ∈ xs, key x = k
    · exact h k _ (mem_groupBy.2 ⟨hk, rfl⟩)
    · have hempty : (xs.filter fun x => key x = k) = [] := by
        rw [List.filter_eq_nil_iff]
        intro x hx hkx
        exact hk ⟨x, hx, by simpa using hkx⟩
      rw [hempty]
      exact Nat.zero_le 1
  · intro h k ys hys
    obtain ⟨-, rfl⟩ := mem_groupBy.1 hys
    rw [← count_keys]
    exact h k

/-- Picking the elements under one key after the other picks those under any of the keys. -/
theorem picked_perm (key : α → κ) {keys : List κ} (h : keys.Nodup) (xs : List α) :
    (keys.flatMap fun k => xs.filter fun x => key x = k).Perm
      (xs.filter fun x => key x ∈ keys) := by
  induction keys with
  | nil => simp
  | cons k keys ih =>
    obtain ⟨hk, hkeys⟩ := List.nodup_cons.1 h
    have hfirst : (xs.filter fun x => key x ∈ k :: keys).filter (fun x => key x = k) =
        xs.filter fun x => key x = k := by
      rw [List.filter_filter]
      refine List.filter_congr fun x _ => ?_
      by_cases hx : key x = k <;> simp [hx]
    have hrest : (xs.filter fun x => key x ∈ k :: keys).filter (fun x => !decide (key x = k)) =
        xs.filter fun x => key x ∈ keys := by
      rw [List.filter_filter]
      refine List.filter_congr fun x _ => ?_
      by_cases hx : key x = k
      · simp [hx, hk]
      · simp [hx]
    have hsplit := List.filter_append_perm (fun x => decide (key x = k))
      (xs.filter fun x => key x ∈ k :: keys)
    rw [hfirst, hrest] at hsplit
    rw [List.flatMap_cons]
    exact ((ih hkeys).append_left _).trans hsplit

theorem groups_perm : ((groupBy le key xs).flatMap (·.2)).Perm xs := by
  have hall : (xs.filter fun x => key x ∈ distinctKeys le (xs.map key)) = xs := by
    rw [List.filter_eq_self]
    intro x hx
    rw [decide_eq_true_eq, mem_distinctKeys]
    exact List.mem_map_of_mem hx
  have hdistinct : (distinctKeys le (xs.map key)).Nodup := nodup_distinctKeys _
  have hpicked := picked_perm key hdistinct xs
  rw [hall] at hpicked
  rwa [groupBy, List.flatMap_map]

/-- Together the groups are as large as the list. -/
theorem sum_groups (key : α → κ) (xs : List α) :
    ((distinctKeys le (xs.map key)).map fun k => (xs.filter fun x => key x = k).length).sum =
      xs.length := by
  have hlength : ((groupBy le key xs).flatMap (·.2)).length = xs.length := groups_perm.length_eq
  rwa [groupBy, List.flatMap_map, List.length_flatMap] at hlength

/-- What is told of some of the elements only. -/
theorem flatMap_guarded {β : Type} (p : α → Prop) [DecidablePred p] (f : α → List β) (l : List α) :
    (l.flatMap fun a => if p a then f a else []) = (l.filter fun a => p a).flatMap f := by
  induction l with
  | nil => rfl
  | cons a l ih =>
    rw [List.flatMap_cons, ih, List.filter_cons]
    by_cases h : p a
    · rw [if_pos h, if_pos (decide_eq_true h), List.flatMap_cons]
    · rw [if_neg h, if_neg (by simpa using h), List.nil_append]

/-! ## Groups of a reordered list -/

theorem distinctKeys_perm {keys keys' : List κ} (h : keys.Perm keys') :
    (distinctKeys le keys).Perm (distinctKeys le keys') :=
  (sortBy_perm _).trans ((eraseDups_perm h).trans (sortBy_perm _).symm)

/-- What is told of each group by itself is told alike, in some order. -/
theorem flatMap_groups_perm {β : Type} {ys : List α} {f : κ × List α → List β}
    (hperm : xs.Perm ys)
    (hf : ∀ k as bs, as.Perm bs → (f (k, as)).Perm (f (k, bs))) :
    ((groupBy le key xs).flatMap f).Perm ((groupBy le key ys).flatMap f) := by
  have hkeys : (distinctKeys le (xs.map key)).Perm (distinctKeys le (ys.map key)) :=
    distinctKeys_perm (hperm.map key)
  unfold groupBy
  rw [List.flatMap_map, List.flatMap_map]
  exact hkeys.flatMap fun k _ => hf k _ _ (hperm.filter _)

/-! ## Texts as keys -/

theorem textLe_total (a b : String) : textLe a b ∨ textLe b a := by
  simpa [textLe] using String.le_total a b

theorem textLe_trans (a b c : String) (hab : textLe a b) (hbc : textLe b c) : textLe a c := by
  simp only [textLe, decide_eq_true_eq] at hab hbc ⊢
  exact String.le_trans hab hbc

theorem distinctTexts_ascending (texts : List String) :
    (distinctKeys textLe texts).Pairwise (· < ·) := by
  refine (distinctKeys_ascending textLe_total textLe_trans texts).imp ?_
  rintro a b ⟨hle, hne⟩
  exact lt_of_le_of_ne (of_decide_eq_true hle) hne

theorem textKeys_ascending {key : α → String} :
    ((groupBy textLe key xs).map (·.1)).Pairwise (· < ·) := by
  rw [keys_groupBy]
  exact distinctTexts_ascending _

end MetricFacade
