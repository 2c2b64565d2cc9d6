import MetricFacade.Cache.Arena
import MetricFacade.Proofs.Cache.Serving

/-!
# Keys that are addresses

A cache that knows a registry by its address would hand out the facade of a registry that is
gone to the next one made at the same place. It does not, because an entry holds a handle:
the count at the address of an entry cannot come to zero, so the address is never free
again. What is left to show is that the facade of an entry was built for the registry that
lives there, across all that happens between the look that found nothing and the insertion;
this rests on the handle that the caller borrows until it returns.

Results:

* `Memory.Sound`: the laws of the memory, kept by `allocate`, `retain` and `release`.
* `Inv.next`, `Inv.run`: what every act keeps. The count at an address is that of the handles
  held and of the entries (`Inv.counts`).
* `Inv.given`: what is handed out was built for the registry that was asked for.
* `run_keys_live`: all of it for two moments of one run.
-/
namespace MetricFacade.Cache

/-! ## Memory -/

namespace Memory

variable {m : Memory} {a b : Address}

theorem cell?_set (m : Memory) (a : Address) (cell? : Option Cell) (b : Address) :
    (m.set a cell?).cell? b = if b = a then cell? else m.cell? b := rfl

theorem registryAt?_allocate (m : Memory) (a b : Address) :
    (m.allocate a).registryAt? b = if b = a then some m.made else m.registryAt? b := by
  unfold registryAt? allocate
  rw [cell?_set]
  split <;> rfl

theorem handlesAt_allocate (m : Memory) (a b : Address) :
    (m.allocate a).handlesAt b = if b = a then 1 else m.handlesAt b := by
  unfold handlesAt allocate
  rw [cell?_set]
  split <;> rfl

/-- Who lives where does not depend on the count. -/
theorem registryAt?_retain (m : Memory) (a b : Address) :
    (m.retain a).registryAt? b = m.registryAt? b := by
  unfold registryAt? retain
  rw [cell?_set]
  split
  · rename_i h
    rw [h]
    cases m.cell? a <;> rfl
  · rfl

theorem handlesAt_retain {r : Nat} (h : m.registryAt? a = some r) (b : Address) :
    (m.retain a).handlesAt b = m.handlesAt b + if b = a then 1 else 0 := by
  obtain ⟨c, hc, -⟩ := Option.map_eq_some_iff.1 h
  unfold handlesAt retain
  rw [cell?_set, hc]
  split
  · rename_i hb
    rw [hb, hc]
    rfl
  · rfl

theorem handlesAt_release (m : Memory) (a b : Address) :
    (m.release a).handlesAt b = m.handlesAt b - if b = a then 1 else 0 := by
  unfold handlesAt release
  rw [cell?_set]
  split
  · rename_i hb
    rw [hb]
    cases m.cell? a with
    | none => rfl
    | some c =>
      show ((if c.handles ≤ 1 then none else some _ : Option Cell).map (·.handles)).getD 0 =
        c.handles - 1
      split
      · rename_i h
        exact (Nat.sub_eq_zero_of_le h).symm
      · rfl
  · rfl

/-- As long as a handle is left, who lives there does not change. -/
theorem registryAt?_release (h : 0 < (m.release a).handlesAt b) :
    (m.release a).registryAt? b = m.registryAt? b := by
  unfold handlesAt release at h
  unfold registryAt? release
  rw [cell?_set] at h ⊢
  split at h
  · rename_i hb
    rw [if_pos hb, hb]
    cases hc : m.cell? a with
    | none => rfl
    | some c =>
      rw [hc, Option.bind_some] at h
      rw [Option.bind_some]
      split at h
      · cases h
      · rename_i hcount
        rw [if_neg hcount]
        rfl
  · rename_i hb
    rw [if_neg hb]

/-- Every registry in memory has a handle, was made before, and lives at one address. -/
structure Sound (m : Memory) : Prop where
  counted : ∀ {a r}, m.registryAt? a = some r → 0 < m.handlesAt a
  made : ∀ {a r}, m.registryAt? a = some r → r < m.made
  unique : ∀ {a b r}, m.registryAt? a = some r → m.registryAt? b = some r → a = b

theorem sound_empty : Sound {} where
  counted h := by cases h
  made h := by cases h
  unique h := by cases h

theorem Sound.allocate (hm : m.Sound) (a : Address) : (m.allocate a).Sound where
  counted := by
    intro b r h
    rw [registryAt?_allocate] at h
    rw [handlesAt_allocate]
    split at h
    · rename_i hb
      rw [if_pos hb]
      exact Nat.one_pos
    · rename_i hb
      rw [if_neg hb]
      exact hm.counted h
  made := by
    intro b r h
    rw [registryAt?_allocate] at h
    show r < m.made + 1
    split at h
    · cases h
      exact Nat.lt_succ_self _
    · exact Nat.lt_succ_of_lt (hm.made h)
  unique := by
    intro b c r hb hc
    rw [registryAt?_allocate] at hb hc
    split at hb <;> split at hc
    · rename_i hb' hc'
      rw [hb', hc']
    -- the number of the new registry is not that of an older one
    · cases hb
      exact absurd (hm.made hc) (Nat.lt_irrefl _)
    · cases hc
      exact absurd (hm.made hb) (Nat.lt_irrefl _)
    · exact hm.unique hb hc

theorem Sound.retain (hm : m.Sound) {r : Nat} (h : m.registryAt? a = some r) :
    (m.retain a).Sound where
  counted := by
    intro b r' h'
    rw [registryAt?_retain] at h'
    rw [handlesAt_retain h]
    exact Nat.add_pos_left (hm.counted h') _
  made := by
    intro b r' h'
    rw [registryAt?_retain] at h'
    exact hm.made h'
  unique := by
    intro b c r' hb hc
    rw [registryAt?_retain] at hb hc
    exact hm.unique hb hc

/-- Where a registry lives after a handle is gone, it lived before and has handles left. -/
theorem Sound.of_release (hm : m.Sound) {r : Nat} (h : (m.release a).registryAt? b = some r) :
    0 < (m.release a).handlesAt b ∧ m.registryAt? b = some r := by
  have hpos : 0 < (m.release a).handlesAt b := by
    unfold registryAt? release at h
    rw [cell?_set] at h
    rw [handlesAt_release]
    split at h
    · rename_i hb
      cases hc : m.cell? a with
      | none => rw [hc] at h; cases h
      | some c =>
        rw [hc, Option.bind_some] at h
        rw [if_pos hb, hb, handlesAt, hc]
        show 0 < c.handles - 1
        split at h
        · cases h
        · omega
    · rename_i hb
      rw [if_neg hb]
      exact hm.counted h
  exact ⟨hpos, registryAt?_release hpos ▸ h⟩

theorem Sound.release (hm : m.Sound) (a : Address) : (m.release a).Sound where
  counted h := (hm.of_release h).1
  made h := hm.made (hm.of_release h).2
  unique hb hc := hm.unique (hm.of_release hb).2 (hm.of_release hc).2

end Memory

/-! ## Callers who come later, and ends that are settled later -/

theorem get?_of_mem {κ α : Type} [DecidableEq κ] {c : Cache κ α} (hn : (c.entries.map (·.1)).Nodup)
    {key : κ} {a : α} (h : (key, a) ∈ c.entries) : c.get? key = some a := by
  unfold get?
  cases hf : c.entries.find? fun e => e.1 = key with
  | none => exact absurd (List.find?_eq_none.1 hf _ h) (by simp)
  | some e =>
    have hkey : e.1 = key := by simpa using List.find?_some hf
    have he := List.inj_on_of_nodup_map hn (List.mem_of_find?_eq_some hf) h hkey
    rw [he]
    rfl

theorem Attempt.map_eq_made {α β ε : Type} {f : α → β} {attempt : Attempt α ε} {b : β} :
    attempt.map f = .made b ↔ ∃ a, attempt = .made a ∧ f a = b := by
  cases attempt <;> simp [Attempt.map]

namespace Crowd

variable {κ α ε : Type} [DecidableEq κ] {s s' : Crowd κ α ε} {i : Nat} {c : Caller κ α ε}

theorem Inv.join (hi : Inv s) (key : κ) (attempt : Attempt α ε) : Inv (s.join key attempt) := by
  have hnew : ∀ {j : Nat} {d : Caller κ α ε}, (s.join key attempt).callers[j]? = some d →
      s.callers[j]? = some d ∨ d = { key := key, attempt := attempt } := by
    intro j d h
    unfold Crowd.join at h
    rw [List.getElem?_append] at h
    split at h
    · exact .inl h
    · exact .inr (List.mem_singleton.1 (List.mem_of_getElem? h))
  refine ⟨fun j => ?_, fun {j d} hd => ?_, hi.nodup, ?_, hi.looks⟩
  · refine (hi.lock j).trans ⟨?_, ?_⟩
    · rintro ⟨d, hd, hl⟩
      have hlt := (List.getElem?_eq_some_iff.1 hd).1
      exact ⟨d, by rw [Crowd.join, List.getElem?_append_left hlt, hd], hl⟩
    · rintro ⟨d, hd, hl⟩
      rcases hnew hd with hd | rfl
      · exact ⟨d, hd, hl⟩
      · cases hl
  · rcases hnew hd with hd | rfl
    · exact Fits.mono (s := s) ⟨fun _ _ h => h, fun _ h => h⟩ (fun _ => rfl) (hi.fits hd)
    · exact trivial
  · have hpending : (s.join key attempt).pending = s.pending := by
      unfold pending Crowd.join
      rw [List.flatMap_append]
      exact List.append_nil _
    rw [hpending]
    exact hi.ledger

/-- Nobody looks at the end of an attempt before it is made. -/
theorem Inv.decide (hi : Inv s) (hc : s.callers[i]? = some c) (hp : c.phase = .making)
    (attempt : Attempt α ε) : Inv (s.decide i c attempt) := by
  have hset := callers_set hc { c with attempt := attempt }
  refine ⟨fun j => ?_, fun {j d} hd => ?_, hi.nodup, ?_, hi.looks⟩
  · refine (hi.lock j).trans ?_
    unfold Crowd.decide
    rw [hset]
    split
    · rename_i hj
      subst hj
      simp only [hc, Option.some.injEq, exists_eq_left']
    · exact Iff.rfl
  · unfold Crowd.decide at hd
    rw [hset] at hd
    split at hd
    · rename_i hj
      cases hd
      have hfit := hi.fits hc
      unfold Fits at hfit ⊢
      rw [hp] at hfit
      simp only [hp]
      exact hfit
    · exact Fits.mono (s := s) ⟨fun _ _ h => h, fun _ h => h⟩ (fun _ => rfl) (hi.fits hd)
  · have hpending : (s.decide i c attempt).pending = s.pending :=
      Inv.pending_set hc (by simp [Caller.inHand, hp])
    rw [hpending]
    exact hi.ledger

/-- Where a step takes its caller, as far as the outcome of the call goes. -/
theorem phase_of_moves (hm : Moves s i c s') :
    ∃ p, s'.callers = s.callers.set i { c with phase := p } ∧ c.phase.over = false ∧
      (∀ a, p = .inserting a → c.phase = .making ∧ c.attempt = .made a) ∧
      ∀ r, p = .returned r → c.phase = .leaving r := by
  cases hm with
  | hit hp | miss hp | acquire hp | found hp | absent hp | fail hp | insert hp | release hp =>
    exact ⟨_, rfl, by rw [hp]; rfl, by simp, by simp⟩
  | succeed hp ha =>
    exact ⟨_, rfl, by rw [hp]; rfl, fun a h => ⟨hp, by cases h; exact ha⟩, by simp⟩
  | leave hp => exact ⟨_, rfl, by rw [hp]; rfl, by simp, fun r h => by cases h; exact hp⟩

theorem cache_of_moves (hm : Moves s i c s') :
    s'.cache = s.cache ∨ ∃ a, c.phase = .inserting a ∧ s'.cache = s.cache.insert c.key a := by
  cases hm with
  | insert hp => exact .inr ⟨_, hp, rfl⟩
  | hit | miss | acquire | found | absent | succeed | fail | release | leave => exact .inl rfl

end Crowd

namespace Arena

variable {α ε : Type}

/-! ## The invariant -/

/-- How many handles to what lives at the address are held. -/
def heldAt (handles : List (Option Handle)) (a : Address) : Nat :=
  handles.countP fun h? => h?.any (·.address = a)

/-- How many entries hold a handle to what lives at the address. -/
def keptAt (s : Arena α ε) (a : Address) : Nat :=
  s.crowd.cache.entries.countP (·.1 = a)

/-- A call and the caller who makes it. The handle is held until the call returns, and what
the caller has made or returned was built for the registry of that handle. -/
structure Fits (handles : List (Option Handle)) (call : Call α ε)
    (c : Caller Address (Built α) ε) : Prop where
  key : c.key = call.handle.address
  borrows : c.phase.over = false → handles[call.borrowed]?.join = some call.handle
  inHand : ∀ b, c.phase = .inserting b → b.registry? = some call.handle.registry
  returns : ∀ b, c.phase = .returned (.made b) → b.registry? = some call.handle.registry

structure Inv (s : Arena α ε) : Prop where
  crowd : s.crowd.Inv
  sound : s.memory.Sound
  counts : ∀ a, s.memory.handlesAt a = heldAt s.handles a + s.keptAt a
  live : ∀ {i h}, s.held? i = some h → s.memory.registryAt? h.address = some h.registry
  kept : ∀ {key b}, s.find? key = some b →
    ∃ r, b.registry? = some r ∧ s.memory.registryAt? key = some r
  paired : s.calls.length = s.crowd.callers.length
  calls : ∀ {j : Nat} {call c}, s.calls[j]? = some call → s.crowd.callers[j]? = some c →
    Fits s.handles call c
  found : ∀ {h b}, (h, some b) ∈ s.found →
    s.find? h.address = some b ∧ b.registry? = some h.registry

theorem inv_empty : Inv ({} : Arena α ε) where
  crowd := Crowd.inv_start []
  sound := Memory.sound_empty
  counts _ := rfl
  live h := by cases h
  kept h := by cases h
  paired := rfl
  calls h := by cases h
  found h := by cases h

theorem heldAt_append (handles : List (Option Handle)) (h : Handle) (a : Address) :
    heldAt (handles ++ [some h]) a = heldAt handles a + if a = h.address then 1 else 0 := by
  unfold heldAt
  rw [List.countP_append, List.countP_singleton]
  simp [eq_comm]

theorem heldAt_drop {handles : List (Option Handle)} {i : Nat} {h : Handle}
    (hi : handles[i]?.join = some h) (a : Address) :
    heldAt (handles.set i none) a = heldAt handles a - if a = h.address then 1 else 0 := by
  obtain ⟨hlt, hget⟩ := List.getElem?_eq_some_iff.1 (Option.join_eq_some_iff.1 hi)
  unfold heldAt
  rw [List.countP_set hlt, hget]
  simp [eq_comm]

theorem heldAt_pos {handles : List (Option Handle)} {i : Nat} {h : Handle}
    (hi : handles[i]?.join = some h) : 0 < heldAt handles h.address :=
  List.countP_pos_iff.2 ⟨some h, List.mem_of_getElem? (Option.join_eq_some_iff.1 hi), by simp⟩

theorem held_append {handles : List (Option Handle)} {g h : Handle} {i : Nat}
    (hi : (handles ++ [some g])[i]?.join = some h) : handles[i]?.join = some h ∨ h = g := by
  rw [List.getElem?_append] at hi
  split at hi
  · exact .inl hi
  · exact .inr (Option.some.inj
      (List.mem_singleton.1 (List.mem_of_getElem? (Option.join_eq_some_iff.1 hi))))

theorem held_of_append {handles : List (Option Handle)} {g h : Handle} {i : Nat}
    (hi : handles[i]?.join = some h) : (handles ++ [some g])[i]?.join = some h := by
  have hlt := (List.getElem?_eq_some_iff.1 (Option.join_eq_some_iff.1 hi)).1
  rw [List.getElem?_append_left hlt, hi]

theorem keptAt_pos {s : Arena α ε} {key : Address} {b : Built α} (h : s.find? key = some b) :
    0 < s.keptAt key :=
  List.countP_pos_iff.2 ⟨(key, b), get?_eq_some_mem h, by simp⟩

theorem borrowed_of_open {s : Arena α ε} {j : Nat} {call : Call α ε}
    {c : Caller Address (Built α) ε} (hcall : s.calls[j]? = some call)
    (hc : s.crowd.callers[j]? = some c) (h : c.phase.over = false) :
    s.borrowed call.borrowed = true := by
  refine List.any_eq_true.2 ⟨(call, c), ?_, by simp [h]⟩
  refine List.mem_of_getElem? (i := j) ?_
  rw [List.getElem?_zip_eq_some]
  exact ⟨hcall, hc⟩

namespace Inv

variable {s : Arena α ε}

/-- An act that deals in handles keeps the invariant if the counts stay right, a registry
with a handle left stays where it is, and borrowed handles stay held. -/
theorem handled (hi : Inv s) {m : Memory} {handles : List (Option Handle)} (hm : m.Sound)
    (hcounts : ∀ a, m.handlesAt a = heldAt handles a + s.keptAt a)
    (hstays : ∀ a r, s.memory.registryAt? a = some r → 0 < m.handlesAt a →
      m.registryAt? a = some r)
    (hlive : ∀ (i : Nat) h, handles[i]?.join = some h →
      s.memory.registryAt? h.address = some h.registry ∨
      m.registryAt? h.address = some h.registry)
    (hborrowed : ∀ i h, s.held? i = some h → s.borrowed i = true → handles[i]?.join = some h) :
    Inv { s with memory := m, handles := handles } where
  crowd := hi.crowd
  sound := hm
  counts := hcounts
  live := by
    intro i h hh
    refine (hlive i h hh).elim (fun hr => hstays _ _ hr ?_) id
    rw [hcounts]
    exact Nat.add_pos_left (heldAt_pos hh) _
  kept := by
    intro key b hb
    obtain ⟨r, hr, hat⟩ := hi.kept hb
    refine ⟨r, hr, hstays key r hat ?_⟩
    rw [hcounts]
    exact Nat.add_pos_right _ (keptAt_pos hb)
  paired := hi.paired
  calls := by
    intro j call c hcall hc
    have hfit := hi.calls hcall hc
    exact ⟨hfit.key, fun h => hborrowed _ _ (hfit.borrows h) (borrowed_of_open hcall hc h),
      hfit.inHand, hfit.returns⟩
  found := hi.found

theorem allocated (hi : Inv s) {a : Address} (h : s.memory.cell? a = none) :
    Inv { s with
      memory := s.memory.allocate a
      handles := s.handles ++ [some ⟨a, s.memory.made⟩] } := by
  have hfree : s.memory.registryAt? a = none := by rw [Memory.registryAt?, h]; rfl
  have hzero : s.memory.handlesAt a = 0 := by rw [Memory.handlesAt, h]; rfl
  refine hi.handled (hi.sound.allocate a) (fun b => ?_) (fun b r hr _ => ?_) (fun i g hg => ?_)
    fun i g hg _ => ?_
  · have hb := hi.counts b
    rw [Memory.handlesAt_allocate, heldAt_append]
    by_cases hba : b = a
    · subst hba
      rw [if_pos rfl, if_pos rfl]
      omega
    · rw [if_neg hba, if_neg hba, hb]
      omega
  · rw [Memory.registryAt?_allocate, if_neg]
    · exact hr
    · rintro rfl
      rw [hfree] at hr
      cases hr
  · rcases held_append hg with hg | rfl
    · exact .inl (hi.live hg)
    · exact .inr (by rw [Memory.registryAt?_allocate, if_pos rfl])
  · exact held_of_append hg

theorem cloned (hi : Inv s) {i : Nat} {h : Handle} (hh : s.held? i = some h) :
    Inv { s with
      memory := s.memory.retain h.address
      handles := s.handles ++ [some h] } := by
  have hat := hi.live hh
  refine hi.handled (hi.sound.retain hat) (fun b => ?_) (fun b r hr _ => ?_) (fun j g hg => ?_)
    fun j g hg _ => held_of_append hg
  · rw [Memory.handlesAt_retain hat, heldAt_append, hi.counts b]
    omega
  · rw [Memory.registryAt?_retain]
    exact hr
  · rcases held_append hg with hg | rfl
    · exact .inl (hi.live hg)
    · exact .inl hat

theorem dropped (hi : Inv s) {i : Nat} {h : Handle} (hh : s.held? i = some h)
    (hb : s.borrowed i = false) :
    Inv { s with
      memory := s.memory.release h.address
      handles := s.handles.set i none } := by
  refine hi.handled (hi.sound.release _) (fun b => ?_) (fun b r hr hpos => ?_) (fun j g hg => ?_)
    fun j g hg hj => ?_
  · have hpos : 0 < heldAt s.handles h.address := heldAt_pos hh
    rw [Memory.handlesAt_release, heldAt_drop hh, hi.counts b]
    split
    · rename_i hba
      rw [hba]
      omega
    · rfl
  · rw [Memory.registryAt?_release hpos]
    exact hr
  · rw [List.getElem?_set] at hg
    split at hg
    · split at hg <;> cases hg
    · exact .inl (hi.live hg)
  · rw [List.getElem?_set_ne]
    · exact hg
    · rintro rfl
      rw [hb] at hj
      cases hj

theorem looked (hi : Inv s) {i : Nat} {h : Handle} (hh : s.held? i = some h) :
    Inv { s with found := s.found ++ [(h, s.find? h.address)] } :=
  { hi with
    found := by
      intro g b hg
      rcases List.mem_append.1 hg with hg | hg
      · exact hi.found hg
      · obtain ⟨rfl, hb⟩ := Prod.mk.inj (List.mem_singleton.1 hg)
        obtain ⟨r, hr, hat⟩ := hi.kept hb.symm
        rw [hi.live hh] at hat
        exact ⟨hb.symm, hr.trans hat.symm⟩ }

theorem called (hi : Inv s) {i : Nat} {h : Handle} (hh : s.held? i = some h)
    (ends : Attempt α ε) :
    Inv { s with
      crowd := s.crowd.join h.address .panicked
      calls := s.calls ++ [⟨i, h, ends⟩] } :=
  { hi with
    crowd := hi.crowd.join h.address .panicked
    paired := by
      show (s.calls ++ _).length = (s.crowd.callers ++ _).length
      rw [List.length_append, List.length_append, hi.paired]
      rfl
    calls := by
      intro j call c hcall hc
      unfold Crowd.join at hc
      rw [List.getElem?_append] at hcall hc
      rw [← hi.paired] at hc
      split at hcall
      · rename_i hj
        rw [if_pos hj] at hc
        exact hi.calls hcall hc
      · rename_i hj
        rw [if_neg hj] at hc
        cases List.mem_singleton.1 (List.mem_of_getElem? hcall)
        cases List.mem_singleton.1 (List.mem_of_getElem? hc)
        exact ⟨rfl, fun _ => hh, by simp, by simp⟩ }

/-- What the caller makes, if it makes anything now, is for the registry of its handle. -/
theorem fits_moved (hi : Inv s) {j : Nat} {call : Call α ε} {c : Caller Address (Built α) ε}
    {crowd : Crowd Address (Built α) ε} (hcall : s.calls[j]? = some call)
    (hc : s.crowd.callers[j]? = some c) (hm : Crowd.Moves s.crowd j c crowd)
    (hmakes : c.phase = .making →
      ∀ b, c.attempt = .made b → b.registry? = some call.handle.registry)
    {k : Nat} {call' : Call α ε} {d : Caller Address (Built α) ε}
    (hcall' : s.calls[k]? = some call') (hd : crowd.callers[k]? = some d) :
    Fits s.handles call' d := by
  obtain ⟨p, hcallers, hover, hhand, hreturn⟩ := Crowd.phase_of_moves hm
  rw [hcallers, Crowd.callers_set hc] at hd
  split at hd
  · rename_i hk
    subst hk
    cases hd
    rw [hcall] at hcall'
    cases hcall'
    have hfit := hi.calls hcall hc
    refine ⟨hfit.key, fun _ => hfit.borrows hover, fun b hb => ?_, fun b hb => ?_⟩
    · exact hmakes (hhand b hb).1 b (hhand b hb).2
    -- what it returns is the entry at the address that its handle keeps alive
    · have hsettled := hi.crowd.fits hc
      unfold Crowd.Fits at hsettled
      rw [hreturn _ hb] at hsettled
      have hentry : s.find? c.key = some b := hsettled
      obtain ⟨r, hr, hat⟩ := hi.kept hentry
      rw [hfit.key, hi.live (hfit.borrows hover)] at hat
      exact hr.trans hat.symm
  · exact hi.calls hcall' hd

theorem paired_moved (hi : Inv s) {j : Nat} {c : Caller Address (Built α) ε}
    {crowd : Crowd Address (Built α) ε} (hm : Crowd.Moves s.crowd j c crowd) :
    s.calls.length = crowd.callers.length := by
  obtain ⟨p, hcallers, -⟩ := Crowd.phase_of_moves hm
  rw [hcallers, List.length_set]
  exact hi.paired

/-- A step that leaves the cache alone. -/
theorem moved (hi : Inv s) {j : Nat} {call : Call α ε} {c : Caller Address (Built α) ε}
    {crowd : Crowd Address (Built α) ε} (hcall : s.calls[j]? = some call)
    (hc : s.crowd.callers[j]? = some c) (hm : Crowd.Moves s.crowd j c crowd)
    (hcache : crowd.cache = s.crowd.cache)
    (hmakes : c.phase = .making →
      ∀ b, c.attempt = .made b → b.registry? = some call.handle.registry) :
    Inv { s with crowd := crowd } where
  crowd := hi.crowd.moves hc hm
  sound := hi.sound
  counts a := by
    unfold keptAt
    rw [hcache]
    exact hi.counts a
  live := hi.live
  kept := by
    unfold find?
    rw [hcache]
    exact hi.kept
  paired := hi.paired_moved hm
  calls := hi.fits_moved hcall hc hm hmakes
  found := by
    unfold find?
    rw [hcache]
    exact hi.found

/-- The step that inserts. The entry is new, so no handle is dropped for it. -/
theorem inserted (hi : Inv s) {j : Nat} {call : Call α ε} {c : Caller Address (Built α) ε}
    {crowd : Crowd Address (Built α) ε} {b : Built α} (hcall : s.calls[j]? = some call)
    (hc : s.crowd.callers[j]? = some c) (hm : Crowd.Moves s.crowd j c crowd)
    (hp : c.phase = .inserting b) (hcache : crowd.cache = s.crowd.cache.insert c.key b) :
    s.find? c.key = none ∧
      Inv { s with crowd := crowd, memory := s.memory.retain c.key } := by
  have hfit := hi.calls hcall hc
  have hat : s.memory.registryAt? c.key = some call.handle.registry := by
    rw [hfit.key]
    exact hi.live (hfit.borrows (by rw [hp]; rfl))
  have hnone : s.find? c.key = none := by
    have h := hi.crowd.fits hc
    unfold Crowd.Fits at h
    rw [hp] at h
    exact h.1
  have hfind : ∀ key, crowd.cache.get? key = if key = c.key then some b else s.find? key := by
    intro key
    rw [hcache, get?_insert]
    rfl
  refine ⟨hnone, ?_⟩
  exact {
    crowd := hi.crowd.moves hc hm
    sound := hi.sound.retain hat
    counts := by
      intro a
      unfold keptAt
      rw [Memory.handlesAt_retain hat, hcache, insert_fresh hnone, List.countP_append,
        List.countP_singleton, hi.counts a, keptAt]
      simp only [decide_eq_true_eq, eq_comm (a := a)]
      omega
    live := by
      intro i h hh
      rw [Memory.registryAt?_retain]
      exact hi.live hh
    kept := by
      intro key b' hb'
      simp only [Memory.registryAt?_retain]
      replace hb' := (hfind key).symm.trans hb'
      split at hb'
      · rename_i hkey
        cases hb'
        exact ⟨_, hfit.inHand b hp, hkey ▸ hat⟩
      · exact hi.kept hb'
    paired := hi.paired_moved hm
    calls := hi.fits_moved hcall hc hm (by rw [hp]; simp)
    found := by
      intro h b' hb'
      obtain ⟨hfound, hr⟩ := hi.found hb'
      refine ⟨(hfind h.address).trans ?_, hr⟩
      rw [if_neg]
      · exact hfound
      · intro hkey
        rw [hkey, hnone] at hfound
        cases hfound }

theorem decided (hi : Inv s) {j : Nat} {c : Caller Address (Built α) ε}
    (hc : s.crowd.callers[j]? = some c) (hp : c.phase = .making) (ends : Attempt (Built α) ε) :
    Inv { s with crowd := s.crowd.decide j c ends } :=
  { hi with
    crowd := hi.crowd.decide hc hp ends
    paired := by
      show s.calls.length = (s.crowd.callers.set j _).length
      rw [List.length_set]
      exact hi.paired
    calls := by
      intro k call d hcall hd
      unfold Crowd.decide at hd
      rw [Crowd.callers_set hc] at hd
      split at hd
      · rename_i hk
        subst hk
        cases hd
        have hfit := hi.calls hcall hc
        exact ⟨hfit.key, hfit.borrows, hfit.inHand, hfit.returns⟩
      · exact hi.calls hcall hd }

/-- A step keeps the invariant, and every entry as it is. -/
theorem step {s' : Arena α ε} (hi : Inv s) {j : Nat} (h : s.step j = some s') :
    Inv s' ∧ Crowd.Keeps s.crowd s'.crowd := by
  unfold Arena.step at h
  obtain ⟨c, hc, h⟩ := Option.bind_eq_some_iff.1 h
  obtain ⟨call, hcall, h⟩ := Option.bind_eq_some_iff.1 h
  have hfit := hi.calls hcall hc
  cases hp : c.phase with
  | making =>
    simp only [hp] at h
    obtain ⟨crowd, hstep, h⟩ := Option.bind_eq_some_iff.1 h
    cases h
    have hdecided := hi.decided hc hp (call.ends.map (⟨·, s.memory.registryAt? c.key⟩))
    obtain ⟨d, hd, hm⟩ := Crowd.moves_of_step hstep
    have hsame := Crowd.callers_set hc
      { c with attempt := call.ends.map (⟨·, s.memory.registryAt? c.key⟩) } j
    rw [if_pos rfl] at hsame
    cases hsame.symm.trans hd
    have hcache : crowd.cache = s.crowd.cache :=
      (Crowd.cache_of_moves hm).resolve_right (by simp [hp])
    have hkeep := hdecided.crowd.keeps_of_moves hd hm
    refine ⟨hdecided.moved hcall hd hm hcache fun _ b hb => ?_, hkeep.entries, hkeep.attempts⟩
    obtain ⟨facade, -, rfl⟩ := Attempt.map_eq_made.1 hb
    show s.memory.registryAt? c.key = _
    rw [hfit.key]
    exact hi.live (hfit.borrows (by rw [hp]; rfl))
  | inserting b =>
    simp only [hp] at h
    obtain ⟨crowd, hstep, h⟩ := Option.bind_eq_some_iff.1 h
    cases h
    obtain ⟨d, hd, hm⟩ := Crowd.moves_of_step hstep
    cases hc.symm.trans hd
    have hcache : crowd.cache = s.crowd.cache.insert c.key b := by
      cases hm with
      | insert hp' => rw [hp] at hp'; cases hp'; rfl
      | _ hp' => rw [hp] at hp'; cases hp'
    obtain ⟨hnone, hnext⟩ := hi.inserted hcall hc hm hp hcache
    refine ⟨?_, hi.crowd.keeps_of_moves hc hm⟩
    rw [hnone]
    exact hnext
  | lookingUp | waiting | checking | releasing | leaving | returned =>
    simp only [hp] at h
    obtain ⟨crowd, hstep, h⟩ := Option.bind_eq_some_iff.1 h
    cases h
    obtain ⟨d, hd, hm⟩ := Crowd.moves_of_step hstep
    cases hc.symm.trans hd
    have hcache : crowd.cache = s.crowd.cache :=
      (Crowd.cache_of_moves hm).resolve_right (by simp [hp])
    exact ⟨hi.moved hcall hc hm hcache (by simp [hp]), hi.crowd.keeps_of_moves hc hm⟩

theorem act {s' : Arena α ε} (hi : Inv s) {a : Act α ε} (h : s.act a = some s') :
    Inv s' ∧ Crowd.Keeps s.crowd s'.crowd := by
  have hsame : Crowd.Keeps s.crowd s.crowd := Crowd.Keeps.refl _
  cases a with
  | allocate a =>
    simp only [Arena.act] at h
    split at h
    · cases h
    · rename_i hfree
      cases h
      exact ⟨hi.allocated (by simpa using hfree), hsame⟩
  | clone i =>
    obtain ⟨g, hg, h⟩ := Option.bind_eq_some_iff.1 h
    cases h
    exact ⟨hi.cloned hg, hsame⟩
  | drop i =>
    obtain ⟨g, hg, h⟩ := Option.bind_eq_some_iff.1 h
    split at h
    · cases h
    · rename_i hb
      cases h
      exact ⟨hi.dropped hg (by simpa using hb), hsame⟩
  | get i =>
    obtain ⟨g, hg, h⟩ := Option.bind_eq_some_iff.1 h
    cases h
    exact ⟨hi.looked hg, hsame⟩
  | call i ends =>
    obtain ⟨g, hg, h⟩ := Option.bind_eq_some_iff.1 h
    cases h
    exact ⟨hi.called hg ends, ⟨fun _ _ h => h, fun _ h => h⟩⟩
  | step j => exact hi.step h

theorem next (hi : Inv s) (a : Act α ε) :
    Inv (s.next a) ∧ Crowd.Keeps s.crowd (s.next a).crowd := by
  unfold Arena.next
  cases h : s.act a with
  | none => exact ⟨hi, Crowd.Keeps.refl _⟩
  | some s' => exact hi.act h

theorem run (hi : Inv s) (acts : List (Act α ε)) :
    Inv (s.run acts) ∧ Crowd.Keeps s.crowd (s.run acts).crowd := by
  induction acts generalizing s with
  | nil => exact ⟨hi, Crowd.Keeps.refl _⟩
  | cons a rest ih =>
    obtain ⟨hnext, hkeep⟩ := hi.next a
    obtain ⟨hrest, hkeep'⟩ := ih hnext
    exact ⟨hrest, hkeep.trans hkeep'⟩

end Inv

/-! ## What is handed out -/

/-- Somebody who asked with the handle was given the facade: by a look at the cache, or by a
call that returned it. -/
def Given (s : Arena α ε) (h : Handle) (b : Built α) : Prop :=
  (h, some b) ∈ s.found ∨ ∃ (j : Nat) (call : Call α ε) (c : Caller Address (Built α) ε),
    s.calls[j]? = some call ∧ s.crowd.callers[j]? = some c ∧ call.handle = h ∧
      c.phase = .returned (.made b)

namespace Inv

variable {s : Arena α ε} {h h' : Handle} {b : Built α}

theorem given (hi : Inv s) (hg : s.Given h b) :
    s.find? h.address = some b ∧ b.registry? = some h.registry := by
  rcases hg with hg | ⟨j, call, c, hcall, hc, rfl, hp⟩
  · exact hi.found hg
  · have hfit := hi.calls hcall hc
    have hsettled := hi.crowd.fits hc
    unfold Crowd.Fits at hsettled
    rw [hp] at hsettled
    exact ⟨hfit.key ▸ hsettled, hfit.returns b hp⟩

/-- A registry with an entry lives where the entry says. -/
theorem registry_of_find (hi : Inv s) {r : Nat} (hf : s.find? h.address = some b)
    (hr : b.registry? = some r) : s.memory.registryAt? h.address = some r := by
  obtain ⟨r', hr', hat⟩ := hi.kept hf
  rw [hr] at hr'
  cases hr'
  exact hat

theorem find_held (hi : Inv s) {i : Nat} (hh : s.held? i = some h)
    (hf : s.find? h.address = some b) : b.registry? = some h.registry := by
  obtain ⟨r, hr, hat⟩ := hi.kept hf
  rw [hi.live hh] at hat
  exact hr.trans hat.symm

/-- A registry is found under one address. -/
theorem find_eq (hi : Inv s) {r : Nat} (h₁ : s.memory.registryAt? h.address = some r)
    (h₂ : s.memory.registryAt? h'.address = some r) : s.find? h.address = s.find? h'.address := by
  rw [hi.sound.unique h₁ h₂]

end Inv

/-- **Keys never alias.** Registries are made, shared, dropped and made again at the same
addresses, the cache is looked at, and calls go on that build a facade or fail to, in any
order. At every moment `s` and every later moment `t` of a run,

* the count at an address is that of the handles held and of the entries with that key;
* the key of an entry is the address of a registry that lives, which is the one that its
  facade was built for;
* whoever was given a facade by `s` was given one built for the registry of the handle;
  all who are given one later with a handle to that registry are given the same, and
  everybody who still holds such a handle finds it;
* two handles to one registry find the same, and only ever a facade built for it. -/
theorem run_keys_live (before after : List (Act α ε)) :
    let s := run ({} : Arena α ε) before
    let t := s.run after
    (∀ a, t.memory.handlesAt a = heldAt t.handles a + t.keptAt a) ∧
    (∀ key b, (key, b) ∈ t.crowd.cache.entries → ∃ r, b.registry? = some r ∧
      t.memory.registryAt? key = some r ∧ 0 < t.memory.handlesAt key) ∧
    (∀ h b, s.Given h b → b.registry? = some h.registry ∧
      (∀ h' b', t.Given h' b' → h'.registry = h.registry → b' = b) ∧
      ∀ i h', t.held? i = some h' → h'.registry = h.registry → t.find? h'.address = some b) ∧
    ∀ i h, t.held? i = some h →
      (∀ b, t.find? h.address = some b → b.registry? = some h.registry) ∧
      ∀ j h', t.held? j = some h' → h'.registry = h.registry →
        t.find? h'.address = t.find? h.address := by
  intro s t
  have hs : Inv s := (inv_empty.run before).1
  obtain ⟨ht, hkeep⟩ := hs.run after
  refine ⟨ht.counts, ?_, ?_, ?_⟩
  · intro key b hb
    obtain ⟨r, hr, hat⟩ := ht.kept (get?_of_mem ht.crowd.nodup hb)
    exact ⟨r, hr, hat, ht.sound.counted hat⟩
  · intro h b hg
    obtain ⟨hf, hr⟩ := hs.given hg
    have hft : t.find? h.address = some b := hkeep.entries _ _ hf
    have hat := ht.registry_of_find hft hr
    refine ⟨hr, fun h' b' hg' hsame => ?_, fun i h' hh' hsame => ?_⟩
    · obtain ⟨hf', hr'⟩ := ht.given hg'
      have hat' := ht.registry_of_find hf' hr'
      rw [hsame] at hat'
      rw [ht.find_eq hat' hat, hft] at hf'
      exact (Option.some.inj hf').symm
    · have hat' := ht.live hh'
      rw [hsame] at hat'
      rw [ht.find_eq hat' hat, hft]
  · intro i h hh
    refine ⟨fun b hf => ht.find_held hh hf, fun j h' hh' hsame => ?_⟩
    have hat' := ht.live hh'
    rw [hsame] at hat'
    exact ht.find_eq hat' (ht.live hh)

/-- The first registry at 7 is gone when its builder has failed, and the address is given to
another. That one stays: its facade is there, although nobody holds a handle any more. -/
example :
    let s := run ({} : Arena Nat String) ([.allocate 7, .call 0 (.failed "boom")] ++
      List.replicate 6 (.step 0) ++ [.drop 0, .allocate 7, .get 1, .call 1 (.made 5)] ++
      List.replicate 7 (.step 1) ++ [.drop 1, .allocate 7, .allocate 8, .get 2])
    s.memory.cell? 7 = some ⟨1, 1⟩ ∧ s.find? 7 = some ⟨5, some 1⟩ ∧
      s.found = [(⟨7, 1⟩, none), (⟨8, 2⟩, none)] := by decide

end Arena

end MetricFacade.Cache
