import MetricFacade.Cache.Concurrent
import MetricFacade.Proofs.Cache.Entries

/-!
# What a crowd of callers keeps in step

Looking up happens outside the lock, so between a caller's first look and its attempt any
number of others may have come and gone. `Inv` ties together what survives that: the holder
of the lock and the one caller between taking and giving it back, what each caller may rely
on at its program point, and the ledger of successful attempts, which is the entries of the
cache and the value that is made but not yet inserted.

Results:

* `moves_of_step`: all that a step can do, and what it needs.
* `Inv.moves`, `Inv.run`: every step keeps `Inv`, so it holds after every schedule.
* `Inv.keeps_run`: an entry stays, whatever happens next.
-/
namespace MetricFacade.Cache

/-- Between taking the lock and giving it back. -/
def Phase.locked {α ε : Type} : Phase α ε → Bool
  | .checking | .making | .inserting _ | .releasing _ => true
  | _ => false

namespace Caller

variable {κ α ε : Type}

/-- The value that the caller has made and not yet inserted. -/
def inHand (c : Caller κ α ε) : List (κ × α) :=
  match c.phase with
  | .inserting a => [(c.key, a)]
  | _ => []

theorem inHand_eq_nil {c : Caller κ α ε} (h : ∀ a, c.phase ≠ .inserting a) : c.inHand = [] := by
  unfold inHand
  split
  · rename_i a ha
    exact absurd ha (h a)
  · rfl

theorem inHand_of_not_locked {c : Caller κ α ε} (h : c.phase.locked = false) : c.inHand = [] := by
  refine inHand_eq_nil fun a ha => ?_
  rw [ha] at h
  cases h

end Caller

/-- What a successful attempt has made, and for which key. -/
def Making.product? {κ α ε : Type} (m : Making κ α ε) : Option (κ × α) :=
  match m.outcome with
  | .made a => some (m.key, a)
  | _ => none

namespace Crowd

variable {κ α ε : Type}

/-- Everything that was ever made, in order. -/
def made (s : Crowd κ α ε) : List (κ × α) :=
  s.attempts.filterMap (·.product?)

/-- What is made and not yet inserted. -/
def pending (s : Crowd κ α ε) : List (κ × α) :=
  s.callers.flatMap (·.inHand)

theorem made_record_made (s : Crowd κ α ε) (i : Nat) (key : κ) (a : α) :
    (s.record ⟨i, key, .made a⟩).made = s.made ++ [(key, a)] := by
  simp [made, record, Making.product?, List.filterMap_append]

theorem made_record_other (s : Crowd κ α ε) (i : Nat) (key : κ) {r : Attempt α ε}
    (h : ∀ a, r ≠ .made a) : (s.record ⟨i, key, r⟩).made = s.made := by
  cases r with
  | made a => exact absurd rfl (h a)
  | failed e => simp [made, record, Making.product?, List.filterMap_append]
  | panicked => simp [made, record, Making.product?, List.filterMap_append]

variable [DecidableEq κ]

/-! ## What one step can do -/

/-- The steps of caller `i`, which is `c`, each with what it needs. -/
inductive Moves (s : Crowd κ α ε) (i : Nat) (c : Caller κ α ε) : Crowd κ α ε → Prop
  | hit {a : α} : c.phase = .lookingUp → s.cache.get? c.key = some a →
      Moves s i c (s.move i c (.leaving (.made a)))
  | miss : c.phase = .lookingUp → s.cache.get? c.key = none → Moves s i c (s.move i c .waiting)
  | acquire : c.phase = .waiting → s.holder = none →
      Moves s i c { s.move i c .checking with holder := some i }
  | found {a : α} : c.phase = .checking → s.cache.get? c.key = some a →
      Moves s i c (s.move i c (.releasing (.made a)))
  | absent : c.phase = .checking → s.cache.get? c.key = none → Moves s i c (s.move i c .making)
  | succeed {a : α} : c.phase = .making → c.attempt = .made a →
      Moves s i c ((s.record ⟨i, c.key, .made a⟩).move i c (.inserting a))
  | fail : c.phase = .making → (∀ a, c.attempt ≠ .made a) →
      Moves s i c ((s.record ⟨i, c.key, c.attempt⟩).move i c (.releasing c.attempt))
  | insert {a : α} : c.phase = .inserting a →
      Moves s i c { s.move i c (.releasing (.made a)) with cache := s.cache.insert c.key a }
  | release {r : Attempt α ε} : c.phase = .releasing r →
      Moves s i c { s.move i c (.leaving r) with holder := none }
  | leave {r : Attempt α ε} : c.phase = .leaving r → Moves s i c (s.move i c (.returned r))

theorem moves_of_step {s s' : Crowd κ α ε} {i : Nat} (h : s.step i = some s') :
    ∃ c, s.callers[i]? = some c ∧ Moves s i c s' := by
  unfold step at h
  obtain ⟨c, hc, h⟩ := Option.bind_eq_some_iff.1 h
  refine ⟨c, hc, ?_⟩
  cases hp : c.phase with
  | lookingUp =>
    simp only [hp] at h
    cases hg : s.cache.get? c.key with
    | some a => simp only [hg] at h; cases h; exact .hit hp hg
    | none => simp only [hg] at h; cases h; exact .miss hp hg
  | waiting =>
    simp only [hp] at h
    cases hh : s.holder with
    | some j => simp [hh] at h
    | none => simp only [hh] at h; cases h; exact .acquire hp hh
  | checking =>
    simp only [hp] at h
    cases hg : s.cache.get? c.key with
    | some a => simp only [hg] at h; cases h; exact .found hp hg
    | none => simp only [hg] at h; cases h; exact .absent hp hg
  | making =>
    simp only [hp] at h
    cases ha : c.attempt with
    | made a => simp only [ha] at h; cases h; exact .succeed hp ha
    | failed e =>
      simp only [ha] at h; cases h
      rw [← ha]; exact .fail hp (by simp [ha])
    | panicked =>
      simp only [ha] at h; cases h
      rw [← ha]; exact .fail hp (by simp [ha])
  | inserting a => simp only [hp] at h; cases h; exact .insert hp
  | releasing r => simp only [hp] at h; cases h; exact .release hp
  | leaving r => simp only [hp] at h; cases h; exact .leave hp
  | returned r => simp [hp] at h

/-! ## The invariant -/

/-- The caller is right about its result: a value is the one in the cache, anything else is
the end its own attempt came to. -/
def Settled (s : Crowd κ α ε) (i : Nat) (c : Caller κ α ε) : Attempt α ε → Prop
  | .made a => s.cache.get? c.key = some a
  | r => c.attempt = r ∧ ⟨i, c.key, r⟩ ∈ s.attempts

/-- What caller `i` may rely on at its program point. -/
def Fits (s : Crowd κ α ε) (i : Nat) (c : Caller κ α ε) : Prop :=
  match c.phase with
  | .lookingUp | .waiting | .checking => True
  | .making => s.cache.get? c.key = none
  | .inserting a => s.cache.get? c.key = none ∧ c.attempt = .made a
  | .releasing r | .leaving r | .returned r => s.Settled i c r

structure Inv (s : Crowd κ α ε) : Prop where
  lock : ∀ i, s.holder = some i ↔ ∃ c, s.callers[i]? = some c ∧ c.phase.locked = true
  fits : ∀ {i c}, s.callers[i]? = some c → s.Fits i c
  nodup : (s.cache.entries.map (·.1)).Nodup
  ledger : s.made = s.cache.entries ++ s.pending
  looks : ∀ key a, Look.entry key (some a) ∈ s.looks → s.cache.get? key = some a

/-- Entries stay, and so does the record of what was attempted. -/
structure Keeps (s s' : Crowd κ α ε) : Prop where
  entries : ∀ key a, s.cache.get? key = some a → s'.cache.get? key = some a
  attempts : ∀ m ∈ s.attempts, m ∈ s'.attempts

theorem Keeps.refl (s : Crowd κ α ε) : Keeps s s := ⟨fun _ _ h => h, fun _ h => h⟩

theorem Keeps.trans {s t u : Crowd κ α ε} (h₁ : Keeps s t) (h₂ : Keeps t u) : Keeps s u :=
  ⟨fun key a h => h₂.entries key a (h₁.entries key a h),
    fun m h => h₂.attempts m (h₁.attempts m h)⟩

theorem settled_of_other {s : Crowd κ α ε} {i : Nat} {c : Caller κ α ε} {r : Attempt α ε}
    (h : ∀ a, r ≠ .made a) (hr : c.attempt = r) (hm : ⟨i, c.key, r⟩ ∈ s.attempts) :
    s.Settled i c r := by
  cases r with
  | made a => exact absurd rfl (h a)
  | failed e => exact ⟨hr, hm⟩
  | panicked => exact ⟨hr, hm⟩

theorem Settled.mono {s s' : Crowd κ α ε} (hk : Keeps s s') {i : Nat} {c : Caller κ α ε}
    {r : Attempt α ε} (h : s.Settled i c r) : s'.Settled i c r := by
  cases r with
  | made a => exact hk.entries _ _ h
  | failed e => exact ⟨h.1, hk.attempts _ h.2⟩
  | panicked => exact ⟨h.1, hk.attempts _ h.2⟩

/-- A caller without the lock does not mind that others insert. -/
theorem Fits.mono {s s' : Crowd κ α ε} (hk : Keeps s s') {i : Nat} {c : Caller κ α ε}
    (hsame : c.phase.locked = true → s'.cache = s.cache) (h : s.Fits i c) : s'.Fits i c := by
  unfold Fits at h ⊢
  cases hp : c.phase with
  | lookingUp => trivial
  | waiting => trivial
  | checking => trivial
  | making =>
    rw [hp] at h
    rw [hsame (by rw [hp]; rfl)]
    exact h
  | inserting a =>
    rw [hp] at h
    rw [hsame (by rw [hp]; rfl)]
    exact h
  | releasing r => rw [hp] at h; exact Settled.mono hk h
  | leaving r => rw [hp] at h; exact Settled.mono hk h
  | returned r => rw [hp] at h; exact Settled.mono hk h

omit [DecidableEq κ] in
theorem callers_set {s : Crowd κ α ε} {i : Nat} {c : Caller κ α ε} (hc : s.callers[i]? = some c)
    (d : Caller κ α ε) (j : Nat) :
    (s.callers.set i d)[j]? = if j = i then some d else s.callers[j]? := by
  have hlt : i < s.callers.length := (List.getElem?_eq_some_iff.1 hc).1
  by_cases h : j = i
  · subst h
    rw [if_pos rfl, List.getElem?_set_self hlt]
  · rw [if_neg h, List.getElem?_set_ne (Ne.symm h)]

namespace Inv

variable {s s' : Crowd κ α ε} {i : Nat} {c : Caller κ α ε}

theorem holder_of_locked (hi : Inv s) (hc : s.callers[i]? = some c)
    (hl : c.phase.locked = true) : s.holder = some i :=
  (hi.lock i).2 ⟨c, hc, hl⟩

theorem not_locked_of_ne (hi : Inv s) (hc : s.callers[i]? = some c) (hl : c.phase.locked = true)
    {j : Nat} {d : Caller κ α ε} (hd : s.callers[j]? = some d) (hj : j ≠ i) :
    d.phase.locked = false := by
  by_contra hdl
  have hj' := hi.holder_of_locked hd (by simpa using hdl)
  rw [hi.holder_of_locked hc hl] at hj'
  exact hj (Option.some.inj hj').symm

/-- Only the holder of the lock has anything in hand. -/
theorem pending_of_locked (hi : Inv s) (hc : s.callers[i]? = some c)
    (hl : c.phase.locked = true) (p : Phase α ε) :
    (s.callers.set i { c with phase := p }).flatMap (·.inHand) =
      Caller.inHand { c with phase := p } := by
  have hothers : ∀ j d, s.callers[j]? = some d → j ≠ i → d.inHand = [] := fun j d hd hj =>
    Caller.inHand_of_not_locked (hi.not_locked_of_ne hc hl hd hj)
  revert hc hothers
  generalize s.callers = l
  intro hc hothers
  induction l generalizing i with
  | nil => simp at hc
  | cons d l ih =>
    cases i with
    | zero =>
      rw [List.set_cons_zero, List.flatMap_cons, List.flatMap_eq_nil_iff.2, List.append_nil]
      intro e he
      obtain ⟨j, hj⟩ := List.getElem?_of_mem he
      exact hothers (j + 1) e hj (by simp)
    | succ i =>
      rw [List.set_cons_succ, List.flatMap_cons, hothers 0 d rfl (by simp), List.nil_append]
      exact ih hc fun j e hj hne => hothers (j + 1) e hj (by simpa using hne)

theorem pending_eq_inHand (hi : Inv s) (hc : s.callers[i]? = some c)
    (hl : c.phase.locked = true) : s.pending = c.inHand := by
  have h := hi.pending_of_locked hc hl c.phase
  obtain ⟨hlt, rfl⟩ := List.getElem?_eq_some_iff.1 hc
  rwa [List.set_getElem_self hlt] at h

omit [DecidableEq κ] in
/-- A caller that has the same in hand before and after leaves what is pending alone. -/
theorem pending_set (hc : s.callers[i]? = some c) {d : Caller κ α ε} (h : c.inHand = d.inHand) :
    (s.callers.set i d).flatMap (·.inHand) = s.pending := by
  obtain ⟨hlt, rfl⟩ := List.getElem?_eq_some_iff.1 hc
  unfold pending
  rw [List.flatMap_def, List.flatMap_def, List.map_set, ← h]
  congr 1
  have hlt' : i < (s.callers.map (·.inHand)).length := by simpa using hlt
  have := List.set_getElem_self hlt'
  rwa [List.getElem_map] at this

/-- The lock stays with the one caller that is between taking and giving it back. -/
theorem lock_moved (hi : Inv s) (hc : s.callers[i]? = some c) {p : Phase α ε}
    (hcallers : s'.callers = s.callers.set i { c with phase := p })
    (hholder : s'.holder =
      if p.locked = true then some i else if c.phase.locked = true then none else s.holder)
    (hfree : p.locked = true → c.phase.locked = true ∨ s.holder = none) (j : Nat) :
    s'.holder = some j ↔ ∃ d, s'.callers[j]? = some d ∧ d.phase.locked = true := by
  have hheld : c.phase.locked = true → s.holder = some i := hi.holder_of_locked hc
  rw [hcallers, hholder]
  by_cases hj : j = i
  · subst hj
    simp only [callers_set hc, if_pos, Option.some.injEq, exists_eq_left']
    by_cases hp : p.locked = true
    · simp [hp]
    · by_cases hl : c.phase.locked = true
      · simp [hp, hl]
      · have hnot : s.holder ≠ some j := by
          intro hh
          obtain ⟨d, hd, hdl⟩ := (hi.lock j).1 hh
          rw [hc] at hd
          cases hd
          exact hl hdl
        simp [hp, hl, hnot]
  · simp only [callers_set hc, if_neg hj, ← hi.lock j]
    by_cases hp : p.locked = true
    · rw [if_pos hp]
      have hne : some i ≠ some j := fun h => hj (Option.some.inj h).symm
      rcases hfree hp with hl | hnone
      · rw [hheld hl]
      · rw [hnone]
        exact ⟨fun h => absurd h hne, fun h => by cases h⟩
    · rw [if_neg hp]
      by_cases hl : c.phase.locked = true
      · rw [if_pos hl, hheld hl]
        exact ⟨fun h => (by cases h), fun h => absurd (Option.some.inj h).symm hj⟩
      · rw [if_neg hl]

/-- What a step has to see to: the lock, its own caller, the ledger. The other callers find
what they rely on as it was. -/
theorem moved (hi : Inv s) (hc : s.callers[i]? = some c) {p : Phase α ε}
    (hcallers : s'.callers = s.callers.set i { c with phase := p })
    (hholder : s'.holder =
      if p.locked = true then some i else if c.phase.locked = true then none else s.holder)
    (hfree : p.locked = true → c.phase.locked = true ∨ s.holder = none)
    (hkeep : Keeps s s') (hcache : c.phase.locked = true ∨ s'.cache = s.cache)
    (hfits : s'.Fits i { c with phase := p }) (hnodup : (s'.cache.entries.map (·.1)).Nodup)
    (hledger : s'.made = s'.cache.entries ++ s'.pending) (hlooks : s'.looks = s.looks) :
    Inv s' where
  lock := lock_moved hi hc hcallers hholder hfree
  fits := by
    intro j d hd
    rw [hcallers, callers_set hc] at hd
    by_cases hj : j = i
    · rw [if_pos hj] at hd
      cases hd
      rw [hj]
      exact hfits
    · rw [if_neg hj] at hd
      refine Fits.mono hkeep (fun hdl => ?_) (hi.fits hd)
      rcases hcache with hl | hsame
      · rw [hi.not_locked_of_ne hc hl hd hj] at hdl
        cases hdl
      · exact hsame
  nodup := hnodup
  ledger := hledger
  looks := by
    intro key a h
    rw [hlooks] at h
    exact hkeep.entries key a (hi.looks key a h)

/-- As `moved`, for a step that changes no more than where the caller stands. -/
theorem moved_only (hi : Inv s) (hc : s.callers[i]? = some c) {p : Phase α ε}
    (hholder : s'.holder =
      if p.locked = true then some i else if c.phase.locked = true then none else s.holder)
    (hs' : s' = { s.move i c p with holder := s'.holder })
    (hfree : p.locked = true → c.phase.locked = true ∨ s.holder = none)
    (hfits : s.Fits i { c with phase := p })
    (hhand : c.inHand = Caller.inHand { c with phase := p }) : Inv s' := by
  have hcache : s'.cache = s.cache := by rw [hs']; rfl
  have hattempts : s'.attempts = s.attempts := by rw [hs']; rfl
  have hcallers : s'.callers = s.callers.set i { c with phase := p } := by rw [hs']; rfl
  have hlooks : s'.looks = s.looks := by rw [hs']; rfl
  have hkeep : Keeps s s' :=
    ⟨fun _ _ h => by rw [hcache]; exact h, fun _ h => by rw [hattempts]; exact h⟩
  refine moved hi hc hcallers hholder hfree hkeep (.inr hcache)
    (Fits.mono hkeep (fun _ => hcache) hfits) (by rw [hcache]; exact hi.nodup) ?_ hlooks
  have hpending : s'.pending = s.pending := by
    unfold pending
    rw [hcallers]
    exact pending_set hc hhand
  rw [hcache, hpending, ← hi.ledger]
  unfold made
  rw [hattempts]

/-- The one step that writes to the cache writes under a key that has no entry. -/
theorem keeps_of_moves (hi : Inv s) (hc : s.callers[i]? = some c) (hm : Moves s i c s') :
    Keeps s s' := by
  have hfit := hi.fits hc
  cases hm with
  | succeed => exact ⟨fun _ _ h => h, fun m h => List.mem_append_left _ h⟩
  | fail => exact ⟨fun _ _ h => h, fun m h => List.mem_append_left _ h⟩
  | insert hp =>
    unfold Fits at hfit
    rw [hp] at hfit
    refine ⟨fun key b h => ?_, fun m h => h⟩
    show (s.cache.insert _ _).get? key = some b
    rw [get?_insert]
    have hne : key ≠ c.key := by
      intro e
      rw [e, hfit.1] at h
      cases h
    rw [if_neg hne]
    exact h
  | hit | miss | acquire | found | absent | release | leave => exact ⟨fun _ _ h => h, fun m h => h⟩

theorem moves (hi : Inv s) (hc : s.callers[i]? = some c) (hm : Moves s i c s') : Inv s' := by
  have hkeep := hi.keeps_of_moves hc hm
  have hfit := hi.fits hc
  unfold Fits at hfit
  cases hm with
  | hit hp hg =>
    exact hi.moved_only hc (by simp [move, Phase.locked, hp]) rfl (by simp [Phase.locked]) hg
      (by simp [Caller.inHand, hp])
  | miss hp hg =>
    exact hi.moved_only hc (by simp [move, Phase.locked, hp]) rfl (by simp [Phase.locked]) trivial
      (by simp [Caller.inHand, hp])
  | acquire hp hh =>
    exact hi.moved_only hc (by simp [Phase.locked]) rfl (fun _ => .inr hh) trivial
      (by simp [Caller.inHand, hp])
  | found hp hg =>
    have hl : c.phase.locked = true := by rw [hp]; rfl
    exact hi.moved_only hc (by simp [move, Phase.locked, hi.holder_of_locked hc hl]) rfl
      (fun _ => .inl hl) hg (by simp [Caller.inHand, hp])
  | absent hp hg =>
    have hl : c.phase.locked = true := by rw [hp]; rfl
    exact hi.moved_only hc (by simp [move, Phase.locked, hi.holder_of_locked hc hl]) rfl
      (fun _ => .inl hl) hg (by simp [Caller.inHand, hp])
  | @succeed a hp ha =>
    have hl : c.phase.locked = true := by rw [hp]; rfl
    rw [hp] at hfit
    refine hi.moved hc rfl (by simp [move, record, Phase.locked, hi.holder_of_locked hc hl])
      (fun _ => .inl hl) hkeep (.inl hl) ⟨hfit, ha⟩ hi.nodup ?_ rfl
    have hnone : s.pending = [] := by
      rw [hi.pending_eq_inHand hc hl]
      simp [Caller.inHand, hp]
    have hnow := hi.pending_of_locked hc hl (.inserting a)
    show (s.record ⟨i, c.key, .made a⟩).made = s.cache.entries ++ _
    rw [made_record_made, hi.ledger, hnone, List.append_nil]
    exact congrArg _ hnow.symm
  | fail hp ha =>
    have hl : c.phase.locked = true := by rw [hp]; rfl
    refine hi.moved hc rfl (by simp [move, record, Phase.locked, hi.holder_of_locked hc hl])
      (fun _ => .inl hl) hkeep (.inl hl) ?_ hi.nodup ?_ rfl
    · exact settled_of_other ha rfl (List.mem_append_right _ (List.mem_singleton_self _))
    · show (s.record ⟨i, c.key, c.attempt⟩).made = s.cache.entries ++ _
      rw [made_record_other s i c.key ha, hi.ledger]
      refine congrArg _ (pending_set hc ?_).symm
      simp [Caller.inHand, hp]
  | @insert a hp =>
    have hl : c.phase.locked = true := by rw [hp]; rfl
    rw [hp] at hfit
    refine hi.moved hc rfl (by simp [move, Phase.locked, hi.holder_of_locked hc hl])
      (fun _ => .inl hl) hkeep (.inl hl) ?_ (nodup_insert hi.nodup _ _) ?_ rfl
    · show (s.cache.insert c.key a).get? c.key = some a
      rw [get?_insert, if_pos rfl]
    · have hhand : s.pending = [(c.key, a)] := by
        rw [hi.pending_eq_inHand hc hl]
        simp [Caller.inHand, hp]
      have hnow := hi.pending_of_locked hc hl (.releasing (.made a))
      show s.made = (s.cache.insert c.key a).entries ++ _
      rw [insert_fresh hfit.1, hi.ledger, hhand]
      exact (List.append_nil _).symm.trans (congrArg _ hnow.symm)
  | release hp =>
    rw [hp] at hfit
    exact hi.moved_only hc (by simp [Phase.locked, hp]) rfl (by simp [Phase.locked]) hfit
      (by simp [Caller.inHand, hp])
  | leave hp =>
    rw [hp] at hfit
    exact hi.moved_only hc (by simp [move, Phase.locked, hp]) rfl (by simp [Phase.locked]) hfit
      (by simp [Caller.inHand, hp])

theorem next (hi : Inv s) (e : Event κ) : Inv (s.next e) := by
  cases e with
  | step i =>
    show Inv ((s.step i).getD s)
    cases h : s.step i with
    | none => exact hi
    | some s' =>
      obtain ⟨c, hc, hm⟩ := moves_of_step h
      exact hi.moves hc hm
  | get key =>
    refine ⟨hi.lock, hi.fits, hi.nodup, hi.ledger, fun key' a h => ?_⟩
    rcases List.mem_append.1 h with h | h
    · exact hi.looks key' a h
    · obtain ⟨rfl, hfound⟩ := Look.entry.inj (List.mem_singleton.1 h)
      exact hfound.symm
  | size =>
    refine ⟨hi.lock, hi.fits, hi.nodup, hi.ledger, fun key' a h => ?_⟩
    rcases List.mem_append.1 h with h | h
    · exact hi.looks key' a h
    · cases List.mem_singleton.1 h

theorem keeps_next (hi : Inv s) (e : Event κ) : Keeps s (s.next e) := by
  cases e with
  | step i =>
    show Keeps s ((s.step i).getD s)
    cases h : s.step i with
    | none => exact Keeps.refl s
    | some s' =>
      obtain ⟨c, hc, hm⟩ := moves_of_step h
      exact hi.keeps_of_moves hc hm
  | get key => exact ⟨fun _ _ h => h, fun _ h => h⟩
  | size => exact ⟨fun _ _ h => h, fun _ h => h⟩

theorem run (hi : Inv s) (schedule : List (Event κ)) : Inv (s.run schedule) := by
  induction schedule generalizing s with
  | nil => exact hi
  | cons e rest ih => exact ih (hi.next e)

theorem keeps_run (hi : Inv s) (schedule : List (Event κ)) : Keeps s (s.run schedule) := by
  induction schedule generalizing s with
  | nil => exact Keeps.refl s
  | cons e rest ih => exact (hi.keeps_next e).trans (ih (hi.next e))

end Inv

omit [DecidableEq κ] in
theorem start_callers (calls : List (κ × Attempt α ε)) {i : Nat} {c : Caller κ α ε}
    (h : (start calls).callers[i]? = some c) : c.phase = .lookingUp := by
  simp only [start, List.getElem?_map, Option.map_eq_some_iff] at h
  obtain ⟨call, -, rfl⟩ := h
  rfl

theorem inv_start (calls : List (κ × Attempt α ε)) : Inv (start calls) where
  lock i := by
    constructor
    · intro h
      cases h
    · rintro ⟨c, hc, hl⟩
      rw [start_callers calls hc] at hl
      cases hl
  fits := by
    intro i c hc
    unfold Fits
    rw [start_callers calls hc]
    trivial
  nodup := List.nodup_nil
  ledger := by
    have hnil : (start calls).pending = [] := by
      refine List.flatMap_eq_nil_iff.2 fun c hc => ?_
      obtain ⟨i, hi⟩ := List.getElem?_of_mem hc
      exact Caller.inHand_of_not_locked (by rw [start_callers calls hi]; rfl)
    rw [hnil]
    rfl
  looks key a h := by cases h

end Crowd

end MetricFacade.Cache
