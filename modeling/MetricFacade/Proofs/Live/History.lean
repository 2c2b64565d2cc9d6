import MetricFacade.Proofs.Live.Store

/-!
# Whole facades, or none

Over a history, what the registries of a session hold and what is listed there agree with the
answers that were given. The invariant has two parts. The session is sound: the instances of
its stores are whole, and nothing is listed for a handle yet to come. And what is listed are
the facades that somebody was given.

Results:

* `Session.createWith_made`, `Session.createWith_failed`: a facade that is given is listed from
  then on; a refusal has a reason and leaves what the session held.
* `Session.Sound.addRegistry`, `Session.Sound.wrap`, `Session.Sound.act`, `Session.Sound.call`,
  `Session.Sound.createWith`: each keeps the session sound.
* `History.Inv.next`, `History.Inv.run`: every event keeps the invariant, and so does a history.
* `run_whole`: the facades that are listed are those that were given, all of their
  collectors are registered, and whoever is refused one changes nothing.
-/
namespace MetricFacade.Live

open Registry

namespace Session

/-- All that the stores of a session hold, and where its handles lead. -/
def contents (s : Session) : Session :=
  { s with stores := s.stores.map (·.contents) }

/-- With another store in the place of one. -/
def put (s : Session) (number : Nat) (st : Store) : Session :=
  { s with stores := s.stores.set number st }

@[simp] theorem handles_put (s : Session) (number : Nat) (st : Store) :
    (s.put number st).handles = s.handles := rfl

@[simp] theorem stores_put (s : Session) (number : Nat) (st : Store) :
    (s.put number st).stores = s.stores.set number st := rfl

/-! ## What is listed -/

theorem created?_eq_some {s : Session} {handle : Handle} {f : Facade} {r : Reference} :
    s.created? handle f = some r ↔ ∃ st, s.handles[handle]? = some r.store ∧
      s.stores[r.store]? = some st ∧ st.created.get? (handle, f) = some r.number := by
  unfold created?
  simp only [bind, pure, Option.bind_eq_some_iff, Option.some.injEq]
  constructor
  · rintro ⟨number, hhandle, st, hst, k, hk, rfl⟩
    exact ⟨st, hhandle, hst, hk⟩
  · rintro ⟨st, hhandle, hst, hk⟩
    exact ⟨r.store, hhandle, st, hst, r.number, hk, rfl⟩

theorem store?_of_handle {s : Session} {handle : Handle} {number : Nat} {st : Store}
    (hhandle : s.handles[handle]? = some number) (hst : s.stores[number]? = some st) :
    s.store? handle = some st := by
  unfold store?
  rw [hhandle]
  exact hst

theorem created?_of_handle {s : Session} {handle : Handle} {number : Nat} {st : Store}
    (hhandle : s.handles[handle]? = some number) (hst : s.stores[number]? = some st)
    (f : Facade) :
    s.created? handle f = (st.created.get? (handle, f)).map (⟨number, ·⟩) := by
  unfold created?
  rw [hhandle]
  dsimp only [bind, Option.bind_some]
  rw [hst, Option.bind_some]
  cases st.created.get? (handle, f) with
  | none => rfl
  | some n => rfl

theorem created?_of_le {s : Session} {handle : Handle} (hle : s.handles.length ≤ handle)
    (f : Facade) : s.created? handle f = none := by
  unfold created?
  rw [List.getElem?_eq_none hle]
  rfl

theorem created?_put {s : Session} {number : Nat} (st : Store) (hlt : number < s.stores.length)
    (handle : Handle) (f : Facade) :
    (s.put number st).created? handle f =
      if s.handles[handle]? = some number then
        (st.created.get? (handle, f)).map (⟨number, ·⟩)
      else s.created? handle f := by
  split
  · next hhandle =>
    exact created?_of_handle (s := s.put number st) hhandle (List.getElem?_set_self hlt) f
  · next hhandle =>
    unfold created?
    rw [handles_put, stores_put]
    cases hother : s.handles[handle]? with
    | none => rfl
    | some other =>
      have hne : number ≠ other := fun heq => hhandle (hother.trans (congrArg some heq.symm))
      dsimp only [bind, Option.bind_some]
      rw [List.getElem?_set_ne hne]

/-- A store that lists the same may take the place of one. -/
theorem created?_put_same {s : Session} {number : Nat} {st st' : Store}
    (hst : s.stores[number]? = some st) (hsame : st'.created = st.created) (handle : Handle)
    (f : Facade) : (s.put number st').created? handle f = s.created? handle f := by
  rw [created?_put st' (List.getElem?_eq_some_iff.1 hst).1]
  split
  · next hhandle => rw [hsame, created?_of_handle hhandle hst]
  · rfl

theorem created?_contents (s : Session) (handle : Handle) (f : Facade) :
    s.contents.created? handle f = s.created? handle f := by
  unfold created? contents
  dsimp only
  cases s.handles[handle]? with
  | none => rfl
  | some number =>
    dsimp only [bind, Option.bind_some]
    rw [List.getElem?_map]
    cases s.stores[number]? with
    | none => rfl
    | some st => rfl

/-! ## Asking for a facade -/

theorem act_eq_some {α : Type} {s s' : Session} {handle : Handle} {g : Store → Store × α} {a : α}
    (h : s.act handle g = some (s', a)) : ∃ number st, s.handles[handle]? = some number ∧
      s.stores[number]? = some st ∧ s' = s.put number (g st).1 ∧ a = (g st).2 := by
  unfold act at h
  obtain ⟨number, hhandle, h⟩ := Option.bind_eq_some_iff.1 h
  obtain ⟨st, hst, h⟩ := Option.bind_eq_some_iff.1 h
  cases h
  exact ⟨number, st, hhandle, hst, rfl, rfl⟩

variable [Digest]

theorem createWith_eq_some {s s' : Session} {handle : Handle} {f : Facade}
    {outcome : Cache.Attempt Reference Rejection}
    (h : s.createWith handle f = some (s', outcome)) : ∃ number st,
      s.handles[handle]? = some number ∧ s.stores[number]? = some st ∧
      s' = s.put number (st.create handle f).1 ∧
      ((∃ n, (st.create handle f).2 = .made n ∧ outcome = .made ⟨number, n⟩) ∨
        ∃ why, (st.create handle f).2 = .failed why ∧ outcome = .failed why) := by
  unfold createWith at h
  obtain ⟨number, hhandle, h⟩ := Option.bind_eq_some_iff.1 h
  obtain ⟨⟨s₁, attempt⟩, hact, h⟩ := Option.bind_eq_some_iff.1 h
  obtain ⟨number', st, hhandle', hst, rfl, rfl⟩ := act_eq_some hact
  rw [hhandle] at hhandle'
  cases hhandle'
  refine ⟨number, st, hhandle, hst, ?_⟩
  cases hattempt : (st.create handle f).2 with
  | made n =>
    rw [hattempt] at h
    cases h
    exact ⟨rfl, .inl ⟨n, rfl, rfl⟩⟩
  | failed why =>
    rw [hattempt] at h
    cases h
    exact ⟨rfl, .inr ⟨why, rfl, rfl⟩⟩
  | panicked => exact absurd hattempt (st.create_ne_panicked handle f)

/-- Whoever asks for a facade is given it or told why not. -/
theorem createWith_ends {s s' : Session} {handle : Handle} {f : Facade}
    {outcome : Cache.Attempt Reference Rejection}
    (h : s.createWith handle f = some (s', outcome)) :
    (∃ r, outcome = .made r) ∨ ∃ why, outcome = .failed why := by
  obtain ⟨number, -, -, -, -, ⟨n, -, hmade⟩ | ⟨why, -, hfailed⟩⟩ := createWith_eq_some h
  · exact .inl ⟨⟨number, n⟩, hmade⟩
  · exact .inr ⟨why, hfailed⟩

/-- A facade that is given is listed from then on, and it is the one that was listed if there
was one. -/
theorem createWith_made {s s' : Session} {handle : Handle} {f : Facade} {r : Reference}
    (h : s.createWith handle f = some (s', .made r)) :
    (∀ r', s.created? handle f = some r' → r' = r) ∧
      ∀ handle' f', s'.created? handle' f' =
        if handle' = handle ∧ f' = f then some r else s.created? handle' f' := by
  obtain ⟨number, st, hhandle, hst, rfl, ⟨n, hmade, hr⟩ | ⟨why, -, hwhy⟩⟩ := createWith_eq_some h
  · cases hr
    obtain ⟨honly, hlisted⟩ := Store.create_made (Prod.ext rfl hmade)
    refine ⟨fun r' hr' => ?_, fun handle' f' => ?_⟩
    · rw [created?_of_handle hhandle hst] at hr'
      obtain ⟨m, hm, rfl⟩ := Option.map_eq_some_iff.1 hr'
      rw [honly m hm]
    · rw [created?_put _ (List.getElem?_eq_some_iff.1 hst).1, hlisted]
      by_cases hkey : handle' = handle ∧ f' = f
      · obtain ⟨rfl, rfl⟩ := hkey
        rw [if_pos hhandle, if_pos rfl, if_pos ⟨rfl, rfl⟩, Option.map_some]
      · have hne : (handle', f') ≠ (handle, f) := fun heq => hkey (Prod.ext_iff.1 heq)
        rw [if_neg hne, if_neg hkey]
        split
        · next hhandle' => rw [created?_of_handle hhandle' hst]
        · rfl
  · cases hwhy

/-- Whoever is refused a facade had none, is told a reason and has changed nothing. -/
theorem createWith_failed {s s' : Session} {handle : Handle} {f : Facade} {why : Rejection}
    (h : s.createWith handle f = some (s', .failed why)) :
    s'.contents = s.contents ∧ s.created? handle f = none ∧
      ∃ st, s.store? handle = some st ∧ st.Objects f why := by
  obtain ⟨number, st, hhandle, hst, rfl, ⟨n, -, hmade⟩ | ⟨why', hfailed, hwhy⟩⟩ :=
    createWith_eq_some h
  · cases hmade
  · cases hwhy
    obtain ⟨hsame, hnew, hobjects⟩ := Store.create_failed (Prod.ext rfl hfailed)
    have hnone : s.created? handle f = none := by
      rw [created?_of_handle hhandle hst, hnew, Option.map_none]
    have hthere : (s.stores.map (·.contents))[number]? = some st.contents := by
      rw [List.getElem?_map, hst, Option.map_some]
    refine ⟨?_, hnone, st, store?_of_handle hhandle hst, hobjects⟩
    unfold contents
    rw [stores_put, handles_put, List.map_set, hsame, set_of_getElem? hthere]

/-! ## Sound sessions -/

/-- Every handle leads to a store, all stores are sound, and what they list is listed for
handles that are there. -/
structure Sound (s : Session) : Prop where
  default : defaultHandle < s.handles.length
  routed : ∀ number ∈ s.handles, number < s.stores.length
  stores : ∀ st ∈ s.stores, st.Sound
  filed : ∀ st ∈ s.stores, ∀ handle f n, st.created.get? (handle, f) = some n →
    handle < s.handles.length

theorem sound_start : start.Sound where
  default := by decide
  routed := by decide
  stores := by
    intro st hst
    rw [List.mem_singleton.1 hst]
    exact Store.sound_empty
  filed := by
    intro st hst handle f n hn
    rw [List.mem_singleton.1 hst] at hn
    cases hn

/-- The step to `s'` has kept the session sound and changed nothing in what it lists. -/
def Kept (s s' : Session) : Prop :=
  s'.Sound ∧ ∀ handle f, s'.created? handle f = s.created? handle f

namespace Sound

variable {s : Session}

theorem store_of_handle (hs : s.Sound) {handle : Handle} (hlt : handle < s.handles.length) :
    ∃ number st, s.handles[handle]? = some number ∧ s.stores[number]? = some st := by
  have hnumber := hs.routed _ (List.getElem_mem hlt)
  exact ⟨s.handles[handle], s.stores[s.handles[handle]], List.getElem?_eq_getElem hlt,
    List.getElem?_eq_getElem hnumber⟩

theorem put (hs : s.Sound) (number : Nat) {st : Store} (hst : st.Sound)
    (hfiled : ∀ handle f n, st.created.get? (handle, f) = some n → handle < s.handles.length) :
    (s.put number st).Sound where
  default := hs.default
  routed := by
    rw [handles_put, stores_put, List.length_set]
    exact hs.routed
  stores := by
    intro st' hst'
    rcases List.mem_or_eq_of_mem_set hst' with hold | rfl
    · exact hs.stores st' hold
    · exact hst
  filed := by
    intro st' hst'
    rcases List.mem_or_eq_of_mem_set hst' with hold | rfl
    · exact hs.filed st' hold
    · exact hfiled

theorem put_same (hs : s.Sound) {number : Nat} {st st' : Store}
    (hst : s.stores[number]? = some st) (hst' : st'.Sound) (hsame : st'.created = st.created) :
    Kept s (s.put number st') := by
  refine ⟨hs.put number hst' ?_, created?_put_same hst hsame⟩
  rw [hsame]
  exact hs.filed st (List.mem_of_getElem? hst)

/-- With one more handle, to a store that is there or to a new one. -/
theorem grown (hs : s.Sound) {new : List Store} (hnew : ∀ st ∈ new, st = Store.empty)
    {number : Nat} (hnumber : number < (s.stores ++ new).length) :
    Sound ⟨s.stores ++ new, s.handles ++ [number]⟩ := by
  have hlength : s.handles.length ≤ (s.handles ++ [number]).length := by simp
  refine ⟨?default, ?routed, ?stores, ?filed⟩
  case default => exact Nat.lt_of_lt_of_le hs.default hlength
  case routed =>
    intro other hother
    rcases List.mem_append.1 hother with hold | hlast
    · exact Nat.lt_of_lt_of_le (hs.routed other hold) (by simp)
    · rwa [List.mem_singleton.1 hlast]
  case stores =>
    intro st hst
    rcases List.mem_append.1 hst with hold | hadded
    · exact hs.stores st hold
    · rw [hnew st hadded]
      exact Store.sound_empty
  case filed =>
    intro st hst handle f n hn
    rcases List.mem_append.1 hst with hold | hadded
    · exact Nat.lt_of_lt_of_le (hs.filed st hold handle f n hn) hlength
    · rw [hnew st hadded] at hn
      cases hn

theorem grow (hs : s.Sound) {new : List Store} (hnew : ∀ st ∈ new, st = Store.empty)
    {number : Nat} (hnumber : number < (s.stores ++ new).length) :
    Kept s ⟨s.stores ++ new, s.handles ++ [number]⟩ := by
  refine ⟨hs.grown hnew hnumber, fun handle f => ?_⟩
  by_cases hlt : handle < s.handles.length
  · obtain ⟨there, st, hhandle, hst⟩ := hs.store_of_handle hlt
    have hthere := (List.getElem?_eq_some_iff.1 hst).1
    rw [created?_of_handle hhandle hst]
    refine created?_of_handle ?_ ?_ f
    · rw [List.getElem?_append_left hlt, hhandle]
    · rw [List.getElem?_append_left hthere, hst]
  · -- the handle is the new one, or none: no store lists anything for it
    have hle := Nat.not_lt.1 hlt
    rw [created?_of_le hle, Option.eq_none_iff_forall_ne_some]
    intro r hr
    obtain ⟨st, -, hst, hn⟩ := created?_eq_some.1 hr
    rcases List.mem_append.1 (List.mem_of_getElem? hst) with hold | hadded
    · exact hlt (hs.filed st hold handle f r.number hn)
    · rw [hnew st hadded] at hn
      cases hn

theorem addRegistry (hs : s.Sound) : Kept s s.addRegistry.1 :=
  hs.grow (fun _ hst => List.mem_singleton.1 hst) (by simp)

theorem wrap (hs : s.Sound) {handle new : Handle} {s' : Session}
    (h : s.wrap handle = some (s', new)) : Kept s s' := by
  unfold Session.wrap at h
  obtain ⟨number, hhandle, h⟩ := Option.bind_eq_some_iff.1 h
  cases h
  have hnumber := hs.routed number (List.mem_of_getElem? hhandle)
  have hgrown : Kept s ⟨s.stores ++ [], s.handles ++ [number]⟩ :=
    hs.grow (by simp) (by rwa [List.append_nil])
  rwa [List.append_nil] at hgrown

theorem act {α : Type} (hs : s.Sound) {handle : Handle} {g : Store → Store × α} {a : α}
    {s' : Session} (hg : ∀ st : Store, st.Sound → (g st).1.Sound)
    (hsame : ∀ st : Store, (g st).1.created = st.created)
    (h : s.act handle g = some (s', a)) : Kept s s' := by
  obtain ⟨number, st, -, hst, rfl, -⟩ := act_eq_some h
  exact hs.put_same hst (hg st (hs.stores st (List.mem_of_getElem? hst))) (hsame st)

theorem call (hs : s.Sound) {r : Reference} {accessor : String} {values : List String}
    {a : Action} {s' : Session} {state : State}
    (h : s.call r accessor values a = some (s', state)) : Kept s s' := by
  unfold Session.call at h
  obtain ⟨st, hst, h⟩ := Option.bind_eq_some_iff.1 h
  obtain ⟨⟨st', state'⟩, hused, h⟩ := Option.bind_eq_some_iff.1 h
  cases h
  obtain ⟨hst', hsame⟩ := (hs.stores st (List.mem_of_getElem? hst)).call hused
  exact hs.put_same hst hst' hsame

theorem createWith (hs : s.Sound) {handle : Handle} {f : Facade} {s' : Session}
    {outcome : Cache.Attempt Reference Rejection}
    (h : s.createWith handle f = some (s', outcome)) : s'.Sound := by
  obtain ⟨number, st, hhandle, hst, rfl, hends⟩ := createWith_eq_some h
  have hmem := List.mem_of_getElem? hst
  refine hs.put number ((hs.stores st hmem).create handle f) ?_
  intro handle' f' n hn
  rcases hends with ⟨k, hmade, -⟩ | ⟨why, hfailed, -⟩
  · rw [(Store.create_made (Prod.ext rfl hmade)).2] at hn
    split at hn
    · next hkey =>
      cases hkey
      exact (List.getElem?_eq_some_iff.1 hhandle).1
    · exact hs.filed st hmem handle' f' n hn
  · have hsame := congrArg Store.created (Store.create_failed (Prod.ext rfl hfailed)).1
    exact hs.filed st hmem handle' f' n (hsame ▸ hn)

theorem createWith_answers (hs : s.Sound) {handle : Handle} (hlt : handle < s.handles.length)
    (f : Facade) : ∃ s', (∃ r, s.createWith handle f = some (s', .made r)) ∨
      ∃ why, s.createWith handle f = some (s', .failed why) := by
  obtain ⟨number, st, hhandle, hst⟩ := hs.store_of_handle hlt
  have hsome : (s.createWith handle f).isSome := by
    unfold Session.createWith Session.act
    simp only [bind, pure, hhandle, hst, Option.bind_some, Option.isSome_some]
  obtain ⟨⟨s', outcome⟩, h⟩ := Option.isSome_iff_exists.1 hsome
  rcases createWith_ends h with ⟨r, rfl⟩ | ⟨why, rfl⟩
  · exact ⟨s', .inl ⟨r, h⟩⟩
  · exact ⟨s', .inr ⟨why, h⟩⟩

end Sound

end Session

/-! ## Histories -/

namespace History

variable [Digest]

/-- The session is sound, and what is listed there are the facades that were given. -/
structure Inv (w : History) : Prop where
  session : w.session.Sound
  given : ∀ handle f r,
    w.session.created? handle f = some r ↔ ⟨handle, f, .made r⟩ ∈ w.creations

theorem inv_start : Inv {} where
  session := Session.sound_start
  given := by
    intro handle f r
    constructor
    · intro h
      obtain ⟨st, -, hst, hn⟩ := Session.created?_eq_some.1 h
      rw [List.mem_singleton.1 (List.mem_of_getElem? hst)] at hn
      cases hn
    · intro h
      cases h

namespace Inv

variable {w : History}

theorem kept (h : w.Inv) {s : Session} (hkept : w.session.Kept s) : Inv { w with session := s } where
  session := hkept.1
  given := by
    intro handle f r
    rw [hkept.2]
    exact h.given handle f r

theorem moved {α : Type} (h : w.Inv) {result : Option (Session × α)}
    (hkept : ∀ s a, result = some (s, a) → w.session.Kept s) : (w.moved result).Inv := by
  unfold History.moved
  split
  · next s a => exact h.kept (hkept s a rfl)
  · exact h

theorem answered (h : w.Inv) (handle : Handle) (f : Facade) :
    (w.answered handle f (w.session.createWith handle f)).Inv := by
  cases hresult : w.session.createWith handle f with
  | none => exact h
  | some result =>
    obtain ⟨s, outcome⟩ := result
    refine ⟨h.session.createWith hresult, fun handle' f' r' => ?_⟩
    change s.created? handle' f' = some r' ↔
      ⟨handle', f', .made r'⟩ ∈ w.creations ++ [⟨handle, f, outcome⟩]
    rw [List.mem_append, List.mem_singleton, ← h.given]
    rcases Session.createWith_ends hresult with ⟨r, rfl⟩ | ⟨why, rfl⟩
    · obtain ⟨honly, hlisted⟩ := Session.createWith_made hresult
      rw [hlisted]
      split
      · next hkey =>
        obtain ⟨rfl, rfl⟩ := hkey
        constructor
        · intro heq
          cases heq
          exact .inr rfl
        · rintro (hold | hlast)
          · rw [honly r' hold]
          · cases hlast
            rfl
      · next hkey =>
        refine ⟨.inl, fun hgiven => hgiven.resolve_right fun hlast => hkey ?_⟩
        cases hlast
        exact ⟨rfl, rfl⟩
    · rw [← Session.created?_contents, (Session.createWith_failed hresult).1,
        Session.created?_contents]
      refine ⟨.inl, fun hgiven => hgiven.resolve_right fun hlast => ?_⟩
      cases hlast

theorem next (h : w.Inv) (e : Event) : (w.next e).Inv := by
  cases e with
  | addRegistry => exact h.kept h.session.addRegistry
  | wrap handle => exact h.moved fun _ _ hwrap => h.session.wrap hwrap
  | create f => exact h.answered Session.defaultHandle f
  | createWith handle f => exact h.answered handle f
  | call r accessor values a => exact h.moved fun _ _ hcall => h.session.call hcall
  | register handle c =>
    exact h.moved fun _ _ hact =>
      h.session.act (fun _ hst => hst.enter c.collector) (fun _ => rfl) hact
  | registerAll handle cs =>
    exact h.moved fun _ _ hact =>
      h.session.act (fun _ hst => hst.enterAll (cs.map (·.collector))) (fun _ => rfl) hact
  | unregister handle c =>
    exact h.moved fun _ _ hact =>
      h.session.act (fun _ hst => hst.withdraw c.collector)
        (fun st => st.created_withdraw c.collector) hact

end Inv

/-- Every history has the invariant, by induction on what has happened. -/
theorem Inv.run {w : History} (h : w.Inv) (events : List Event) : (w.run events).Inv := by
  induction events generalizing w with
  | nil => exact h
  | cons e events ih => exact ih (h.next e)

end History

/-! ## Every history -/

/-- The facade is there for the handle: the instance is one of the facade, and for each metric the
registry has the collector with its name, its help text and its labels, once. -/
def Session.Holds [Digest] (s : Session) (handle : Handle) (f : Facade) (r : Reference) : Prop :=
  ∃ st x, s.store? handle = some st ∧ st.instances[r.number]? = some x ∧ x.Of f ∧
    ∀ k m, f.metrics[k]? = some m →
      st.registry.HoldsOnce ⟨[⟨m.name, m.help, m.labels, []⟩], .ofFacade r.number k⟩

theorem Session.Sound.holds [Digest] {s : Session} (hs : s.Sound) {handle : Handle} {f : Facade}
    {r : Reference} (h : s.created? handle f = some r) : s.Holds handle f r := by
  obtain ⟨st, hhandle, hst, hn⟩ := created?_eq_some.1 h
  have hsound := hs.stores st (List.mem_of_getElem? hst)
  obtain ⟨x, hx, hof, hin⟩ := hsound.whole _ _ hn
  refine ⟨st, x, store?_of_handle hhandle hst, hx, hof, fun k m hm => ?_⟩
  exact hsound.keys.holdsOnce (hin _ ((Instance.mem_collectors_iff hof).2 ⟨k, m, hm, rfl⟩))

/-- What is listed, what was given and what is registered agree. -/
structure History.Whole [Digest] (w : History) : Prop where
  /-- For a handle exactly those facades are listed that somebody was given there. -/
  listed_iff_given : ∀ handle f r,
    w.session.created? handle f = some r ↔ ⟨handle, f, .made r⟩ ∈ w.creations
  /-- A facade that is listed is there, with all its collectors. -/
  holds : ∀ handle f r, w.session.created? handle f = some r → w.session.Holds handle f r
  default : Session.defaultHandle < w.session.handles.length
  /-- Whoever asks for a facade next is given it, or had none and is refused for a reason,
  and then changes nothing. -/
  answers : ∀ handle < w.session.handles.length, ∀ f, ∃ s,
    (∃ r, w.session.createWith handle f = some (s, .made r)) ∨
      ∃ why, w.session.createWith handle f = some (s, .failed why) ∧
        s.contents = w.session.contents ∧ w.session.created? handle f = none ∧
        ∃ st, w.session.store? handle = some st ∧ st.Objects f why

/-- **Whole facades, or none.** Whatever facades are asked for, in whatever registries and how
often, and whatever others register and take back in between: the facades that are listed are
those that were given, all their collectors are registered, each once, and a refusal has its
reason and leaves everything as it was. -/
theorem run_whole [Digest] (events : List Event) : (History.run {} events).Whole := by
  have hinv := History.inv_start.run events
  refine ⟨hinv.given, fun handle f r h => hinv.session.holds h, hinv.session.default, ?_⟩
  intro handle hlt f
  obtain ⟨s, hmade | ⟨why, hfailed⟩⟩ := hinv.session.createWith_answers hlt f
  · exact ⟨s, .inl hmade⟩
  · exact ⟨s, .inr ⟨why, hfailed, Session.createWith_failed hfailed⟩⟩

end MetricFacade.Live
