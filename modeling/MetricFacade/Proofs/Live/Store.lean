import MetricFacade.Live.History
import MetricFacade.Proofs.Cache.Entries
import MetricFacade.Proofs.Live.Instrument
import MetricFacade.Proofs.Registry.Contents

/-!
# What a store keeps

An instance is listed for a handle only after its collectors were registered, all of them,
and nobody takes a facade's collectors away. So whatever is done to a store, the instances it
lists stay whole.

Results:

* `Instance.Of.call`: using an instance changes neither its facade nor its collectors.
* `create_cases`: the three ends that creating a facade may come to.
* `create_made`, `create_failed`: what is listed afterwards.
* `create_of_refusal`: one instrument that cannot be built is enough for a refusal.
* `Sound.create`, `Sound.call`, `Sound.enter`, `Sound.enterAll`, `Sound.withdraw`: each keeps
  the instances whole.
-/
namespace MetricFacade.Live

open Registry

/-! ## Instances -/

theorem set_of_getElem? {α : Type} {xs : List α} {k : Nat} {x : α} (h : xs[k]? = some x) :
    xs.set k x = xs := by
  obtain ⟨hlt, rfl⟩ := List.getElem?_eq_some_iff.1 h
  exact List.set_getElem_self hlt

namespace Instance

/-- The instance is one of the facade, with an instrument for each of its metrics. -/
structure Of (x : Instance) (f : Facade) : Prop where
  facade : x.facade = f
  metrics : x.instruments.map (·.metric) = f.metrics

theorem of_ofFacade (f : Facade) : (ofFacade f).Of f where
  facade := rfl
  metrics := by
    have hmetric : (fun i : Instrument => i.metric) ∘ Instrument.ofMetric = id :=
      funext metric_ofMetric
    rw [ofFacade, List.map_map, hmetric, List.map_id]

/-- An action on one of the instruments, and what it comes to. -/
theorem call_eq_some {x x' : Instance} {accessor : String} {values : List String} {a : Action}
    {state : State} (h : x.call accessor values a = some (x', state)) :
    ∃ k i, x.instruments.findIdx? (fun i => answersTo accessor i.metric) = some k ∧
      x.instruments[k]? = some i ∧
      x' = { x with instruments := x.instruments.set k (i.perform values a) } ∧
      (i.perform values a).state? values = some state := by
  unfold Instance.call at h
  obtain ⟨k, hk, h⟩ := Option.bind_eq_some_iff.1 h
  obtain ⟨i, hi, h⟩ := Option.bind_eq_some_iff.1 h
  split at h
  · cases h
  · obtain ⟨state', hstate, h⟩ := Option.bind_eq_some_iff.1 h
    cases h
    exact ⟨k, i, hk, hi, rfl, hstate⟩

theorem metrics_call {x x' : Instance} {accessor : String} {values : List String} {a : Action}
    {state : State} (h : x.call accessor values a = some (x', state)) :
    x'.instruments.map (·.metric) = x.instruments.map (·.metric) := by
  obtain ⟨k, i, -, hi, rfl, -⟩ := call_eq_some h
  have hmetric : (x.instruments.map (·.metric))[k]? = some (i.perform values a).metric := by
    rw [List.getElem?_map, hi, Option.map_some, metric_perform]
  rw [List.map_set, set_of_getElem? hmetric]

theorem of_call_iff {x x' : Instance} {f : Facade} {accessor : String} {values : List String}
    {a : Action} {state : State} (h : x.call accessor values a = some (x', state)) :
    x'.Of f ↔ x.Of f := by
  have hmetrics := metrics_call h
  obtain ⟨k, i, -, -, rfl, -⟩ := call_eq_some h
  exact ⟨fun hof => ⟨hof.facade, hmetrics ▸ hof.metrics⟩,
    fun hof => ⟨hof.facade, hmetrics.trans hof.metrics⟩⟩

theorem Of.call {x x' : Instance} {f : Facade} (h : x.Of f) {accessor : String}
    {values : List String} {a : Action} {state : State}
    (hcall : x.call accessor values a = some (x', state)) : x'.Of f :=
  (of_call_iff hcall).2 h

/-- The collectors of an instance say what its metrics are, and nothing of what became of them. -/
theorem collectors_of {x : Instance} {f : Facade} (h : x.Of f) (number : Nat) :
    x.collectors number = f.metrics.zipIdx.map fun (m, k) =>
      ⟨[⟨m.name, m.help, m.labels, []⟩], .ofFacade number k⟩ := by
  rw [Instance.collectors, ← h.metrics, List.zipIdx_map, List.map_map]
  rfl

/-- Each metric has its collector, by its name, its help text and its labels, and there are no
others. -/
theorem mem_collectors_iff {x : Instance} {f : Facade} (h : x.Of f) {number : Nat}
    {c : Collector Source} : c ∈ x.collectors number ↔ ∃ k m, f.metrics[k]? = some m ∧
      c = ⟨[⟨m.name, m.help, m.labels, []⟩], .ofFacade number k⟩ := by
  rw [collectors_of h, List.mem_map]
  constructor
  · rintro ⟨⟨m, k⟩, hm, rfl⟩
    exact ⟨k, m, List.mem_zipIdx_iff_getElem?.1 hm, rfl⟩
  · rintro ⟨k, m, hm, rfl⟩
    exact ⟨⟨m, k⟩, List.mem_zipIdx_iff_getElem?.2 hm, rfl⟩

theorem not_isForeign_of_mem_collectors {x : Instance} {number : Nat} {c : Collector Source}
    (hc : c ∈ x.collectors number) : c.source.isForeign = false := by
  unfold Instance.collectors at hc
  obtain ⟨⟨i, k⟩, -, rfl⟩ := List.mem_map.1 hc
  rfl

end Instance

/-! ## Stores -/

namespace Store

variable [Digest]

/-- No key is taken twice, and every instance that is listed is whole. -/
structure Sound (s : Store) : Prop where
  keys : s.registry.KeysDistinct
  whole : ∀ key n, s.created.get? key = some n →
    ∃ x, s.instances[n]? = some x ∧ x.Of key.2 ∧ ∀ c ∈ x.collectors n, c ∈ s.registry.collectors

theorem sound_empty : empty.Sound where
  keys := List.nodup_nil
  whole := by
    intro key n h
    cases h

/-- What speaks against a facade: one of its instruments cannot be built, or the registry does
not take all of its collectors. -/
def Objects (s : Store) (f : Facade) (why : Rejection) : Prop :=
  (∃ m ∈ f.metrics, (Instrument.ofMetric m).refusal? = some why) ∨
    (s.registry.registerAll ((Instance.ofFacade f).collectors s.instances.length)).2 = .error why

/-- Creating a facade finds the instance that is listed; or it is refused for a reason, and then
the registry has learnt some names at most; or it makes a new instance, all of whose collectors
are registered, and lists it. -/
theorem create_cases (s : Store) (handle : Handle) (f : Facade) :
    (∃ n, s.created.get? (handle, f) = some n ∧ s.create handle f = (s, .made n)) ∨
    (s.created.get? (handle, f) = none ∧ ∃ why dims, s.Objects f why ∧ s.create handle f =
      ({ s with registry := { s.registry with dimensions := dims } }, .failed why)) ∨
    (s.created.get? (handle, f) = none ∧ ∃ registry,
      s.registry.registerAll ((Instance.ofFacade f).collectors s.instances.length) =
        (registry, .ok ()) ∧
      s.create handle f = (⟨registry, s.instances ++ [.ofFacade f],
        s.created.insert (handle, f) s.instances.length⟩, .made s.instances.length)) := by
  unfold create Cache.obtain?
  cases hlisted : s.created.get? (handle, f) with
  | some n => exact .inl ⟨n, rfl, rfl⟩
  | none =>
    right
    unfold build
    cases hrefusal : (Instance.ofFacade f).instruments.findSome? (·.refusal?) with
    | some why =>
      obtain ⟨i, hi, hwhy⟩ := List.exists_of_findSome?_eq_some hrefusal
      obtain ⟨m, hm, rfl⟩ := List.mem_map.1 hi
      exact .inl ⟨rfl, why, s.registry.dimensions, .inl ⟨m, hm, hwhy⟩, by simp only [hrefusal]⟩
    | none =>
      rcases hregister : s.registry.registerAll
        ((Instance.ofFacade f).collectors s.instances.length) with ⟨registry, result⟩
      cases result with
      | error why =>
        obtain ⟨hcollectors, hids⟩ := collectors_registerAll_error hregister
        refine .inl ⟨rfl, why, registry.dimensions, .inr (by rw [hregister]), ?_⟩
        simp only [hrefusal, hregister]
        rw [← hcollectors, ← hids]
      | ok _ => exact .inr ⟨rfl, registry, rfl, by simp only [hrefusal, hregister]⟩

/-- A facade with an instrument that cannot be built is refused before anything is touched. -/
theorem create_of_refusal {s : Store} {handle : Handle} {f : Facade} {m : Metric.Resolved}
    (hm : m ∈ f.metrics) (hrefused : (Instrument.ofMetric m).refusal? ≠ none)
    (hnew : s.created.get? (handle, f) = none) : ∃ why, s.create handle f = (s, .failed why) := by
  have hmem : Instrument.ofMetric m ∈ (Instance.ofFacade f).instruments := List.mem_map_of_mem hm
  cases hfound : (Instance.ofFacade f).instruments.findSome? (·.refusal?) with
  | none => exact absurd (List.findSome?_eq_none_iff.1 hfound _ hmem) hrefused
  | some why =>
    refine ⟨why, ?_⟩
    unfold create Cache.obtain? build
    simp only [hnew, hfound]

theorem created_withdraw (s : Store) (c : Collector Source) :
    (s.withdraw c).1.created = s.created := by
  unfold withdraw
  split
  · rfl
  · rfl

/-- All that a store holds. What its registry remembers of names is not in it. -/
def contents (s : Store) : Store :=
  { s with registry := { s.registry with dimensions := [] } }

variable {s s' : Store} {handle : Handle} {f : Facade}

/-- An instance that is given is listed from then on, and it is the one that was listed if
there was one. -/
theorem create_made {n : Nat} (h : s.create handle f = (s', .made n)) :
    (∀ m, s.created.get? (handle, f) = some m → m = n) ∧
      ∀ key, s'.created.get? key = if key = (handle, f) then some n else s.created.get? key := by
  rcases s.create_cases handle f with
    ⟨m, hlisted, heq⟩ | ⟨-, why, dims, -, heq⟩ | ⟨hnew, registry, -, heq⟩
  · rw [heq] at h
    cases h
    refine ⟨fun m' hm' => Option.some.inj (hm'.symm.trans hlisted), fun key => ?_⟩
    split
    · next hkey => rw [hkey, hlisted]
    · rfl
  · rw [heq] at h
    cases h
  · rw [heq] at h
    cases h
    refine ⟨fun m hm => ?_, fun key => Cache.get?_insert s.created (handle, f) key _⟩
    rw [hnew] at hm
    cases hm

/-- A refusal has a reason, and leaves what the store held. -/
theorem create_failed {why : Rejection} (h : s.create handle f = (s', .failed why)) :
    s'.contents = s.contents ∧ s.created.get? (handle, f) = none ∧ s.Objects f why := by
  rcases s.create_cases handle f with
    ⟨m, -, heq⟩ | ⟨hnew, why', dims, hwhy, heq⟩ | ⟨-, registry, -, heq⟩
  · rw [heq] at h
    cases h
  · rw [heq] at h
    cases h
    exact ⟨rfl, hnew, hwhy⟩
  · rw [heq] at h
    cases h

theorem create_ne_panicked (s : Store) (handle : Handle) (f : Facade) :
    (s.create handle f).2 ≠ .panicked := by
  intro h
  rcases s.create_cases handle f with
    ⟨m, -, heq⟩ | ⟨-, why, dims, -, heq⟩ | ⟨-, registry, -, heq⟩
  · rw [heq] at h
    cases h
  · rw [heq] at h
    cases h
  · rw [heq] at h
    cases h

namespace Sound

theorem create (h : s.Sound) (handle : Handle) (f : Facade) : (s.create handle f).1.Sound := by
  rcases s.create_cases handle f with
    ⟨n, -, heq⟩ | ⟨-, why, dims, -, heq⟩ | ⟨hnew, registry, hall, heq⟩
  · rw [heq]
    exact h
  · rw [heq]
    exact ⟨h.keys, h.whole⟩
  · rw [heq]
    have hcollectors := collectors_registerAll_ok hall
    refine ⟨?keys, ?whole⟩
    case keys =>
      have hkeys := h.keys.registerAll ((Instance.ofFacade f).collectors s.instances.length)
      rwa [hall] at hkeys
    case whole =>
      intro key n hn
      dsimp only at hn ⊢
      rw [Cache.get?_insert] at hn
      rw [hcollectors]
      split at hn
      · next hkey =>
        cases hn
        subst hkey
        exact ⟨.ofFacade f, List.getElem?_concat_length, Instance.of_ofFacade f,
          fun c hc => List.mem_append_right _ hc⟩
      · obtain ⟨x, hx, hof, hin⟩ := h.whole key n hn
        have hlt := (List.getElem?_eq_some_iff.1 hx).1
        exact ⟨x, by rw [List.getElem?_append_left hlt, hx], hof,
          fun c hc => List.mem_append_left _ (hin c hc)⟩

theorem call (h : s.Sound) {number : Nat} {accessor : String} {values : List String} {a : Action}
    {s' : Store} {state : State} (hcall : s.call number accessor values a = some (s', state)) :
    s'.Sound ∧ s'.created = s.created := by
  unfold Store.call at hcall
  obtain ⟨x, hx, hcall⟩ := Option.bind_eq_some_iff.1 hcall
  obtain ⟨⟨x', state'⟩, hused, hcall⟩ := Option.bind_eq_some_iff.1 hcall
  cases hcall
  refine ⟨⟨h.keys, ?_⟩, rfl⟩
  intro key n hn
  obtain ⟨y, hy, hof, hin⟩ := h.whole key n hn
  dsimp only
  by_cases hsame : number = n
  · subst hsame
    rw [hx] at hy
    cases hy
    have hof' := hof.call hused
    refine ⟨x', ?_, hof', ?_⟩
    · rw [List.getElem?_set_self (List.getElem?_eq_some_iff.1 hx).1]
    · rwa [Instance.collectors_of hof', ← Instance.collectors_of hof]
  · exact ⟨y, by rw [List.getElem?_set_ne hsame, hy], hof, hin⟩

/-- What others do to the registry leaves the instances whole if it leaves the collectors of
facades where they are. -/
theorem withRegistry (h : s.Sound) {result : Registry Source × Except Rejection Unit}
    (hkeys : result.1.KeysDistinct)
    (hkept : ∀ c ∈ s.registry.collectors, c.source.isForeign = false → c ∈ result.1.collectors) :
    (s.withRegistry result).1.Sound where
  keys := hkeys
  whole := by
    intro key n hn
    obtain ⟨x, hx, hof, hin⟩ := h.whole key n hn
    exact ⟨x, hx, hof,
      fun c hc => hkept c (hin c hc) (Instance.not_isForeign_of_mem_collectors hc)⟩

theorem enter (h : s.Sound) (c : Collector Source) : (s.enter c).1.Sound := by
  refine h.withRegistry (h.keys.register c) fun d hd _ => ?_
  cases hresult : (s.registry.register c).2 with
  | error why => rwa [(register_error (Prod.ext rfl hresult)).1]
  | ok _ =>
    rw [(register_ok (Prod.ext rfl hresult)).1]
    exact List.mem_append_left _ hd

theorem enterAll (h : s.Sound) (cs : List (Collector Source)) : (s.enterAll cs).1.Sound := by
  refine h.withRegistry (h.keys.registerAll cs) fun d hd _ => ?_
  cases hresult : (s.registry.registerAll cs).2 with
  | error why => rwa [(collectors_registerAll_error (Prod.ext rfl hresult)).1]
  | ok _ =>
    rw [collectors_registerAll_ok (Prod.ext rfl hresult)]
    exact List.mem_append_left _ hd

theorem withdraw (h : s.Sound) (c : Collector Source) : (s.withdraw c).1.Sound := by
  unfold Store.withdraw
  split
  · next hothers =>
    refine h.withRegistry (h.keys.unregister c) fun d hd hours => ?_
    have hkey : d.key ≠ c.key := by
      simpa [hours] using List.all_eq_true.1 hothers d hd
    unfold unregister
    split
    · exact List.mem_filter.2 ⟨hd, by simpa using hkey⟩
    · exact hd
  · exact h

end Sound

end Store

end MetricFacade.Live
