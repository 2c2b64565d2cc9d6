import MetricFacade.Live.Process
import MetricFacade.Proofs.Live.Operation

/-!
# One cache for each type of facade

A process finds its facades in caches that know handles and no registries. That is no less than
what a session lists beside each registry: a handle leads to one registry for good. So the two
give the same answers, and tell the same of every registry.

Results:

* `Process.represents_ofSession`: the caches of a session, put together by facade.
* `Process.Represents.createWith`, `Process.Represents.call`: what is asked of the process and of
  the session comes to the same.
* `Process.Represents.perform`, `Process.Represents.gather`: so they go the same way.
-/
namespace MetricFacade.Live

open Registry

namespace Process

/-- The registries, their instances and the handles are those of the session, and the caches hold
what is listed there. -/
structure Represents (p : Process) (s : Session) : Prop where
  handles : p.handles = s.handles
  stocks : p.stocks = s.stores.map (·.stock)
  caches : ∀ handle f, (p.caches f).get? handle = s.created? handle f

theorem represents_ofSession (s : Session) : (ofSession s).Represents s where
  handles := rfl
  stocks := rfl
  caches := by
    intro handle f
    rw [ofSession, Cache.get?_table]
    split
    · rfl
    · next hout => rw [Session.created?_of_le (Nat.not_lt.1 hout)]

variable {p : Process} {s : Session}

theorem Represents.stock (h : p.Represents s) (number : Nat) :
    p.stocks[number]? = (s.stores[number]?).map (·.stock) := by
  rw [h.stocks, List.getElem?_map]

theorem Represents.gather (h : p.Represents s) (handle : Handle) :
    p.gather handle = s.gather handle := by
  unfold Process.gather Session.gather Session.store?
  rw [h.handles]
  cases s.handles[handle]? with
  | none => rfl
  | some number =>
    simp only [bind, Option.bind_some, h.stock]
    cases s.stores[number]? with
    | none => rfl
    | some st => rfl

/-- Both came to nothing, or to the same with a process that still represents the session. -/
def Matched {α : Type} (x : Option (Process × α)) (y : Option (Session × α)) : Prop :=
  Option.Rel (fun a b => a.1.Represents b.1 ∧ a.2 = b.2) x y

theorem Represents.settle {α : Type} (h : p.Represents s) {x : Option (Process × α)}
    {y : Option (Session × α)} (hmatched : Matched x y) (answer : Option α → Answer) :
    (Operation.settle p answer x).2 = (Operation.settle s answer y).2 ∧
      (Operation.settle p answer x).1.Represents (Operation.settle s answer y).1 := by
  cases hmatched with
  | none => exact ⟨rfl, h⟩
  | some hsame => exact ⟨congrArg (answer ∘ some) hsame.2, hsame.1⟩

/-- With another store in the place of one, on both sides. -/
theorem Represents.stocks_set (h : p.Represents s) (number : Nat) (st : Store) :
    p.stocks.set number st.stock = (s.put number st).stores.map (·.stock) := by
  rw [h.stocks, Session.stores_put, List.map_set]

/-- A store with another list of what was created is used alike. -/
theorem call_store (st : Store) (number : Nat) (accessor : String) (values : List String)
    (a : Action) : st.stock.store.call number accessor values a =
      (st.call number accessor values a).map fun (st', state) => (st'.stock.store, state) := by
  unfold Store.call
  change (st.instances[number]?.bind fun _ => _) = _
  cases st.instances[number]? with
  | none => rfl
  | some x =>
    simp only [bind, Option.bind_some]
    cases x.call accessor values a <;> rfl

theorem Represents.call (h : p.Represents s) (r : Session.Reference) (accessor : String)
    (values : List String) (a : Action) :
    Matched (p.call r accessor values a) (s.call r accessor values a) := by
  unfold Process.call
  rw [h.stock]
  cases hst : s.stores[r.store]? with
  | none =>
    unfold Session.call
    rw [hst]
    exact .none
  | some st =>
    rw [Session.call_of_store hst]
    simp only [bind, pure, Option.map_some, Option.bind_some, call_store]
    cases hcall : st.call r.number accessor values a with
    | none => exact .none
    | some result =>
      have hlisted : result.1.created = st.created := Store.created_call hcall
      refine .some ⟨⟨h.handles, h.stocks_set r.store result.1, fun handle f => ?_⟩, rfl⟩
      rw [Session.created?_put_same hst hlisted]
      exact h.caches handle f

section

variable [Digest]

/-- What the cache of the type and what the store of the registry make of a request. -/
theorem obtain?_eq_create {cache : Cache Handle Session.Reference} {st : Store} {number : Nat}
    {handle : Handle} {f : Facade}
    (h : cache.get? handle = (st.created.get? (handle, f)).map fun n => ⟨number, n⟩) :
    (cache.obtain? handle (build number f) st.stock).2 = ((st.create handle f).1.stock,
      (st.create handle f).2.map fun n => ⟨number, n⟩) := by
  unfold Cache.obtain? Store.create Cache.obtain?
  rw [h]
  cases st.created.get? (handle, f) with
  | some n => rfl
  | none =>
    unfold build
    simp only [Option.map_none, Store.stock]
    rcases hbuilt : Store.build f (st.registry, st.instances) with ⟨stock, attempt⟩
    cases attempt <;> rfl

/-- What is listed after a request is what the cache of its type holds after an attempt. -/
theorem Represents.caches_update (h : p.Represents s) {s' : Session} {handle : Handle} {f : Facade}
    {outcome : Cache.Attempt Session.Reference Rejection}
    (hgiven : s.createWith handle f = some (s', outcome)) {stock stock' : Stock} {number : Nat}
    {cache : Cache Handle Session.Reference}
    (hobtained : (p.caches f).obtain? handle (build number f) stock = (cache, stock', outcome))
    (handle' : Handle) (f' : Facade) :
    (Function.update p.caches f cache f').get? handle' = s'.created? handle' f' := by
  rcases Session.createWith_ends hgiven with ⟨r, rfl⟩ | ⟨why, rfl⟩
  · rw [(Session.createWith_made hgiven).2, ← h.caches]
    by_cases hf : f' = f
    · subst hf
      rw [Function.update_self, Cache.get?_of_obtained hobtained]
      simp only [and_true]
    · rw [Function.update_of_ne hf, if_neg fun hkey => hf hkey.2]
  · rw [Cache.eq_of_obtain?_failed hobtained, Function.update_eq_self, h.caches,
      ← Session.created?_contents s', (Session.createWith_failed hgiven).1, Session.created?_contents]

theorem Represents.createWith (h : p.Represents s) (handle : Handle) (f : Facade) :
    Matched (p.createWith handle f) (s.createWith handle f) := by
  unfold Process.createWith
  rw [h.handles]
  cases hhandle : s.handles[handle]? with
  | none =>
    unfold Session.createWith
    rw [hhandle]
    exact .none
  | some number =>
    simp only [bind, Option.bind_some, h.stock]
    cases hst : s.stores[number]? with
    | none =>
      have hnone : ∀ number', s.handles[handle]? = some number' → s.stores[number']? = none := by
        intro number' hnumber'
        rw [hhandle] at hnumber'
        cases hnumber'
        exact hst
      rw [Session.createWith_of_none hnone]
      exact .none
    | some st =>
      have hgiven := Session.createWith_of_handle hhandle hst f
      have hcache : (p.caches f).get? handle =
          (st.created.get? (handle, f)).map fun n => ⟨number, n⟩ := by
        rw [h.caches, Session.created?_of_handle hhandle hst]
      have hobtained : (p.caches f).obtain? handle (build number f) st.stock =
          (((p.caches f).obtain? handle (build number f) st.stock).1,
            (st.create handle f).1.stock, (st.create handle f).2.map fun n => ⟨number, n⟩) :=
        Prod.ext rfl (obtain?_eq_create hcache)
      rw [hgiven]
      simp only [Option.map_some, Option.bind_some]
      rw [hobtained]
      exact .some ⟨⟨rfl, h.stocks_set number _, h.caches_update hgiven hobtained⟩, rfl⟩

/-- The process and the session answer alike, and go on alike. -/
theorem Represents.perform (h : p.Represents s) (op : Operation) :
    (p.perform op).2 = (s.perform op).2 ∧ (p.perform op).1.Represents (s.perform op).1 := by
  cases op with
  | create f => exact h.settle (h.createWith Session.defaultHandle f) .facade
  | createWith handle f => exact h.settle (h.createWith handle f) .facade
  | call r accessor values a => exact h.settle (h.call r accessor values a) .series

/-- **A cache for each type is as good as a list beside each registry.** -/
theorem Represents.carryOut (h : p.Represents s) (ops : List Operation) :
    p.record ops = s.record ops ∧ (p.after ops).Represents (s.after ops) :=
  Operation.carryOut_alike (fun _ _ op h => h.perform op) h ops

end

end Process

end MetricFacade.Live
