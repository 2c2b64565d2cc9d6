import MetricFacade.Proofs.Cache.Crowd

/-!
# One value for each key, whoever comes first

What the callers of one cache may count on in every state that a schedule leads to. A value
is served by a look at the cache or by a call that returns it.

Results:

* `made_nodup`: of all attempts for a key at most one succeeds.
* `serves_made`: whoever is served a value is served the one that was made for the key.
* `can_succeed`: a call that has not begun can still succeed, however many failed before it.
* `run_serves_once`: all of it for two moments of one run.
-/
namespace MetricFacade.Cache

/-- How many steps the holder of the lock is away from having given it back, at most. -/
def Phase.untilRelease {α ε : Type} : Phase α ε → Nat
  | .checking => 4
  | .making => 3
  | .inserting _ => 2
  | .releasing _ => 1
  | _ => 0

namespace Crowd

variable {κ α ε : Type} [DecidableEq κ]

/-- Somebody is told that `a` is the value under the key: whoever looks now or looked
before, and a caller whose call has returned it. -/
def Serves (s : Crowd κ α ε) (key : κ) (a : α) : Prop :=
  s.cache.get? key = some a ∨ Look.entry key (some a) ∈ s.looks ∨
    ∃ c ∈ s.callers, c.key = key ∧ c.phase = .returned (.made a)

/-! ## The ledger -/

namespace Inv

variable {s : Crowd κ α ε} {i : Nat} {c : Caller κ α ε}

theorem pending_cases (hi : Inv s) :
    s.pending = [] ∨ ∃ key a, s.cache.get? key = none ∧ s.pending = [(key, a)] := by
  by_cases h : ∃ c ∈ s.callers, ∃ a, c.phase = .inserting a
  · obtain ⟨c, hc, a, hp⟩ := h
    obtain ⟨i, hci⟩ := List.getElem?_of_mem hc
    have hfit := hi.fits hci
    unfold Fits at hfit
    rw [hp] at hfit
    refine .inr ⟨c.key, a, hfit.1, ?_⟩
    rw [hi.pending_eq_inHand hci (by rw [hp]; rfl)]
    simp [Caller.inHand, hp]
  · refine .inl (List.flatMap_eq_nil_iff.2 fun c hc => Caller.inHand_eq_nil fun a ha => ?_)
    exact h ⟨c, hc, a, ha⟩

/-- Of all attempts for a key at most one succeeds. -/
theorem made_nodup (hi : Inv s) : (s.made.map (·.1)).Nodup := by
  rw [hi.ledger]
  rcases hi.pending_cases with h | ⟨key, a, hnone, h⟩
  · rw [h, List.append_nil]
    exact hi.nodup
  · rw [h, ← insert_fresh hnone]
    exact nodup_insert hi.nodup key a

/-- The entries are what was made, but for at most one value that is not inserted yet. -/
theorem size_add_pending (hi : Inv s) :
    s.pending.length ≤ 1 ∧ s.cache.size + s.pending.length = s.made.length := by
  refine ⟨?_, by rw [hi.ledger, List.length_append]; rfl⟩
  rcases hi.pending_cases with h | ⟨key, a, -, h⟩ <;> rw [h] <;> simp

theorem serves_entry (hi : Inv s) {key : κ} {a : α} (h : s.Serves key a) :
    s.cache.get? key = some a := by
  rcases h with h | h | ⟨c, hc, rfl, hp⟩
  · exact h
  · exact hi.looks key a h
  · obtain ⟨i, hci⟩ := List.getElem?_of_mem hc
    have hfit := hi.fits hci
    unfold Fits at hfit
    rw [hp] at hfit
    exact hfit

theorem serves_made (hi : Inv s) {key : κ} {a : α} (h : s.Serves key a) : (key, a) ∈ s.made := by
  rw [hi.ledger]
  exact List.mem_append_left _ (get?_eq_some_mem (hi.serves_entry h))

/-- A caller without a value has come to the end of its own attempt. -/
theorem returned_other (hi : Inv s) (hc : s.callers[i]? = some c) {r : Attempt α ε}
    (hp : c.phase = .returned r) (hr : ∀ a, r ≠ .made a) :
    c.attempt = r ∧ ⟨i, c.key, r⟩ ∈ s.attempts := by
  have hfit := hi.fits hc
  unfold Fits at hfit
  rw [hp] at hfit
  cases r with
  | made a => exact absurd rfl (hr a)
  | failed e => exact hfit
  | panicked => exact hfit

/-- A caller whose attempt does not succeed never writes to the cache. -/
theorem cache_next (hi : Inv s) (hc : s.callers[i]? = some c) (ha : ∀ a, c.attempt ≠ .made a) :
    (s.next (.step i)).cache = s.cache := by
  show ((s.step i).getD s).cache = s.cache
  cases h : s.step i with
  | none => rfl
  | some s' =>
    obtain ⟨d, hd, hm⟩ := moves_of_step h
    rw [hc] at hd
    cases hd
    cases hm with
    | @insert a hp =>
      have hfit := hi.fits hc
      unfold Fits at hfit
      rw [hp] at hfit
      exact absurd hfit.2 (ha a)
    | hit | miss | acquire | found | absent | succeed | fail | release | leave => rfl

end Inv

/-! ## A call that is still to come -/

theorem callers_of_moves {s s' : Crowd κ α ε} {i : Nat} {c : Caller κ α ε} (hm : Moves s i c s') :
    ∃ p, s'.callers = s.callers.set i { c with phase := p } := by
  cases hm <;> exact ⟨_, rfl⟩

/-- Where a caller stands changes, what it asks for does not. -/
theorem call_run (s : Crowd κ α ε) (schedule : List (Event κ)) (i : Nat) :
    (s.run schedule).callers[i]?.map (fun c => (c.key, c.attempt)) =
      s.callers[i]?.map (fun c => (c.key, c.attempt)) := by
  induction schedule generalizing s with
  | nil => rfl
  | cons e rest ih =>
    refine (ih (s.next e)).trans ?_
    cases e with
    | get key => rfl
    | size => rfl
    | step j =>
      show Option.map _ (((s.step j).getD s).callers[i]?) = _
      cases h : s.step j with
      | none => rfl
      | some s' =>
        obtain ⟨c, hc, hm⟩ := moves_of_step h
        obtain ⟨p, hp⟩ := callers_of_moves hm
        rw [Option.getD_some, hp, callers_set hc]
        by_cases hij : i = j
        · rw [if_pos hij, hij, hc]
          rfl
        · rw [if_neg hij]

theorem step_of_moves {s s' : Crowd κ α ε} {i : Nat} {c : Caller κ α ε}
    (hc : s.callers[i]? = some c) (hm : Moves s i c s') : s.step i = some s' := by
  cases hm with
  | hit hp hg => simp [step, hc, hp, hg]
  | miss hp hg => simp [step, hc, hp, hg]
  | acquire hp hh => simp [step, hc, hp, hh]
  | found hp hg => simp [step, hc, hp, hg]
  | absent hp hg => simp [step, hc, hp, hg]
  | succeed hp ha => simp [step, hc, hp, ha]
  | fail hp ha =>
    cases hr : c.attempt with
    | made a => exact absurd hr (ha a)
    | failed e => simp [step, hc, hp, hr]
    | panicked => simp [step, hc, hp, hr]
  | insert hp => simp [step, hc, hp]
  | release hp => simp [step, hc, hp]
  | leave hp => simp [step, hc, hp]

/-- Some schedule leads from the one state to the other. -/
def Leads (s t : Crowd κ α ε) : Prop := ∃ schedule, s.run schedule = t

theorem Leads.refl (s : Crowd κ α ε) : Leads s s := ⟨[], rfl⟩

theorem Leads.of_moves {s t u : Crowd κ α ε} {i : Nat} {c : Caller κ α ε}
    (hc : s.callers[i]? = some c) (hm : Moves s i c t) (h : Leads t u) : Leads s u := by
  obtain ⟨schedule, rfl⟩ := h
  refine ⟨.step i :: schedule, ?_⟩
  show run ((s.step i).getD s) schedule = run t schedule
  rw [step_of_moves hc hm, Option.getD_some]

theorem Leads.trans {s t u : Crowd κ α ε} (h₁ : Leads s t) (h₂ : Leads t u) : Leads s u := by
  obtain ⟨before, rfl⟩ := h₁
  obtain ⟨after, rfl⟩ := h₂
  exact ⟨before ++ after, List.foldl_append⟩

/-- From a locked phase a caller can take a step that brings it nearer to the release. -/
theorem exists_moves (s : Crowd κ α ε) (i : Nat) (c : Caller κ α ε) (hl : c.phase.locked = true) :
    ∃ s' p, Moves s i c s' ∧ s'.callers = s.callers.set i { c with phase := p } ∧
      (p.locked = true ∨ s'.holder = none) ∧ p.untilRelease < c.phase.untilRelease := by
  cases hp : c.phase with
  | checking =>
    cases hg : s.cache.get? c.key with
    | some a => exact ⟨_, _, .found hp hg, rfl, .inl rfl, by simp [Phase.untilRelease]⟩
    | none => exact ⟨_, _, .absent hp hg, rfl, .inl rfl, by simp [Phase.untilRelease]⟩
  | making =>
    by_cases ha : ∃ a, c.attempt = .made a
    · obtain ⟨a, ha⟩ := ha
      exact ⟨_, _, .succeed hp ha, rfl, .inl rfl, by simp [Phase.untilRelease]⟩
    · exact ⟨_, _, .fail hp fun a e => ha ⟨a, e⟩, rfl, .inl rfl, by simp [Phase.untilRelease]⟩
  | inserting a => exact ⟨_, _, .insert hp, rfl, .inl rfl, by simp [Phase.untilRelease]⟩
  | releasing r => exact ⟨_, _, .release hp, rfl, .inr rfl, by simp [Phase.untilRelease]⟩
  | lookingUp | waiting | leaving | returned => rw [hp] at hl; cases hl

/-- Whoever holds the lock can give it back, and need not wait for a caller without it. -/
theorem Inv.can_free_lock {s : Crowd κ α ε} (hi : Inv s) {i : Nat} {c : Caller κ α ε}
    (hc : s.callers[i]? = some c) (hl : c.phase.locked = false) :
    ∃ t, Leads s t ∧ t.holder = none ∧ t.callers[i]? = some c := by
  cases hh : s.holder with
  | none => exact ⟨s, Leads.refl s, hh, hc⟩
  | some j =>
    obtain ⟨d, hd, hdl⟩ := (hi.lock j).1 hh
    have hij : i ≠ j := by
      rintro rfl
      rw [hc] at hd
      cases hd
      rw [hl] at hdl
      cases hdl
    clear hh
    induction hn : d.phase.untilRelease using Nat.strongRecOn generalizing s d with
    | ind n ih =>
      obtain ⟨s', p, hm, hcallers, hstill, hlt⟩ := exists_moves s j d hdl
      have hc' : s'.callers[i]? = some c := by rw [hcallers, callers_set hd, if_neg hij, hc]
      have hd' : s'.callers[j]? = some { d with phase := p } := by
        rw [hcallers, callers_set hd, if_pos rfl]
      rcases hstill with hpl | hfree
      · obtain ⟨t, ht, hnone, hct⟩ := ih _ (hn ▸ hlt) (hi.moves hd hm) hc' _ hd' hpl rfl
        exact ⟨t, Leads.of_moves hd hm ht, hnone, hct⟩
      · exact ⟨s', Leads.of_moves hd hm (Leads.refl s'), hfree, hc'⟩

/-- While the lock is free, a caller whose attempt succeeds is served if it runs alone: what
is there, or else what it makes. -/
theorem serves_alone {s : Crowd κ α ε} {i : Nat} {c : Caller κ α ε} {a : α}
    (hfree : s.holder = none) (hc : s.callers[i]? = some c) (hp : c.phase = .lookingUp)
    (ha : c.attempt = .made a) :
    ∃ t, Leads s t ∧
      t.callers[i]? = some { c with phase := .returned (.made ((s.cache.get? c.key).getD a)) } := by
  have hset : ∀ {u : Crowd κ α ε} {d : Caller κ α ε}, u.callers[i]? = some d → ∀ p,
      (u.move i d p).callers[i]? = some { d with phase := p } := fun hd p => by
    rw [move, callers_set hd, if_pos rfl]
  cases hg : s.cache.get? c.key with
  | some b =>
    have h₁ := hset hc (.leaving (.made b))
    exact ⟨_, .of_moves hc (.hit hp hg) (.of_moves h₁ (.leave rfl) (.refl _)), hset h₁ _⟩
  | none =>
    have h₁ := hset hc .waiting
    have h₂ := hset h₁ .checking
    have h₃ := hset h₂ .making
    have h₄ := hset h₃ (.inserting a)
    have h₅ := hset h₄ (.releasing (.made a))
    have h₆ := hset h₅ (.leaving (.made a))
    have h₇ := hset h₆ (.returned (.made a))
    exact ⟨_, .of_moves hc (.miss hp hg) (.of_moves h₁ (.acquire rfl hfree)
      (.of_moves h₂ (.absent rfl hg) (.of_moves h₃ (.succeed rfl ha)
      (.of_moves h₄ (.insert rfl) (.of_moves h₅ (.release rfl)
      (.of_moves h₆ (.leave rfl) (.refl _))))))), h₇⟩

/-- A call that has not begun can still succeed, whatever became of the others. -/
theorem Inv.can_succeed {s : Crowd κ α ε} (hi : Inv s) {i : Nat} {c : Caller κ α ε} {a : α}
    (hc : s.callers[i]? = some c) (hp : c.phase = .lookingUp) (ha : c.attempt = .made a) :
    ∃ schedule b, (s.run schedule).callers[i]? = some { c with phase := .returned (.made b) } := by
  obtain ⟨t, hst, hfree, hct⟩ := hi.can_free_lock hc (by rw [hp]; rfl)
  obtain ⟨u, htu, hcu⟩ := serves_alone hfree hct hp ha
  obtain ⟨schedule, rfl⟩ := hst.trans htu
  exact ⟨schedule, _, hcu⟩

/-! ## Two moments of a run -/

/-- **One value for each key.** Any number of callers and onlookers, in any order: at every
moment `s` and every later moment `t` of a run,

* of all attempts for a key at most one has succeeded;
* who was served a value by `s` was served one made by then, and all who are served later
  are served the same;
* a call that returns no value returns the end of its own attempt, which was made;
* a step of a caller whose attempt fails or panics leaves the cache as it is, and a call
  that has not begun can still succeed;
* entries are neither removed nor replaced, and there are as many as successful attempts,
  less the one value at most that is made and not yet inserted.

The values are of any type, so those of different callers may be different throughout. -/
theorem run_serves_once (calls : List (κ × Attempt α ε)) (before after : List (Event κ)) :
    let s := (start calls).run before
    let t := s.run after
    (t.made.map (·.1)).Nodup ∧
    (∀ key a, s.Serves key a → (key, a) ∈ s.made ∧ ∀ b, t.Serves key b → b = a) ∧
    (∀ i c r, t.callers[i]? = some c → c.phase = .returned r → (∀ a, r ≠ .made a) →
      calls[i]? = some (c.key, r) ∧ ⟨i, c.key, r⟩ ∈ t.attempts) ∧
    (∀ i c, s.callers[i]? = some c → (∀ a, c.attempt ≠ .made a) →
      (s.next (.step i)).cache = s.cache) ∧
    (∀ (i : Nat) (c : Caller κ α ε) a, t.callers[i]? = some c → c.phase = .lookingUp →
      c.attempt = .made a → ∃ schedule b,
        (t.run schedule).callers[i]? = some { c with phase := .returned (.made b) }) ∧
    (∀ key a, s.cache.get? key = some a → t.cache.get? key = some a) ∧
    t.pending.length ≤ 1 ∧ t.cache.size + t.pending.length = t.made.length := by
  intro s t
  have hs : Inv s := (inv_start calls).run before
  have ht : Inv t := hs.run after
  have hkeep : Keeps s t := hs.keeps_run after
  refine ⟨ht.made_nodup, ?_, ?_, fun i c => hs.cache_next, fun i c a => ht.can_succeed,
    hkeep.entries, ht.size_add_pending⟩
  · intro key a h
    refine ⟨hs.serves_made h, fun b hb => ?_⟩
    have hlater := hkeep.entries key a (hs.serves_entry h)
    rw [ht.serves_entry hb] at hlater
    exact Option.some.inj hlater
  · intro i c r hc hp hr
    obtain ⟨rfl, hm⟩ := ht.returned_other hc hp hr
    refine ⟨?_, hm⟩
    have hcall := ((call_run s after i).trans (call_run (start calls) before i)).symm
    rw [show (s.run after).callers[i]? = some c from hc] at hcall
    simpa [start, List.getElem?_map] using hcall

/-- Both look before either has the lock; the one that is second finds the other's value. -/
example : ((start [(0, .made 1), (0, .made 2)] : Crowd Nat Nat String).run
    (([0, 1, 1, 1, 1, 1, 0, 1, 1, 1, 0, 0, 0, 0].map .step) ++ [.get 0])).results =
      [.made 2, .made 2] := by decide

end Crowd

end MetricFacade.Cache
