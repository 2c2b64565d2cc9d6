import MetricFacade.Proofs.Grouping
import MetricFacade.Proofs.Live.Operation

/-!
# What becomes of a series

All actions on a series add up, in order, through whatever handle they come: the facade that is
given for a handle is always the same instance, only actions change an instance, and an action
changes one series of it. What a registry tells of a facade is what its series have come to.

Results:

* `Instrument.state?_perform`, `Instance.state?_call`: one action, on one series.
* `Session.step`: an operation leaves an instance as it is, makes it, or is an action on it.
* `Session.created?_perform`: what is listed stays listed.
* `Session.state?_carryOut`: a series after a run is what the actions on it make of it.
* `Session.Sound.shown`: a registry tells the state of each series.
-/
namespace MetricFacade.Live

open Registry

/-! ## Series -/

namespace Instrument

variable {i : Instrument} {values values' : List String}

theorem bounds_reach (i : Instrument) (values : List String) : (i.reach values).bounds = i.bounds := by
  rw [bounds, metric_reach, bounds]

theorem state?_reach : (i.reach values).state? values' =
    if seriesKey values' = seriesKey values then
      some ((i.state? values').getD (.start i.metric.kind i.bounds))
    else i.state? values' := by
  unfold reach state?
  split
  · next hthere =>
    split
    · next hkey =>
      rw [hkey]
      obtain ⟨x, hx⟩ := Option.isSome_iff_exists.1 (List.find?_isSome.2 (List.any_eq_true.1 hthere))
      rw [hx]
      rfl
    · rfl
  · next hnew =>
    have hlast : [i.newSeries values].find? (fun x => seriesKey x.values = seriesKey values') =
        if seriesKey values' = seriesKey values then some (i.newSeries values) else none := by
      split
      · next hkey => simp [newSeries, hkey]
      · next hkey => simp [newSeries, Ne.symm hkey]
    dsimp only
    rw [List.find?_append, hlast]
    split
    · next hkey =>
      have hnone : i.series.find? (fun x => seriesKey x.values = seriesKey values') = none := by
        rw [hkey]
        simpa using hnew
      rw [hnone]
      rfl
    · rw [Option.or_none]

/-- An action on a series leaves all others as they are. -/
theorem state?_perform (a : Action) : (i.perform values a).state? values' =
    if seriesKey values' = seriesKey values then State.next i.metric (i.state? values') a
    else i.state? values' := by
  have hperformed : (i.perform values a).state? values' =
      ((i.reach values).state? values').map fun state =>
        if seriesKey values' = seriesKey values then state.after i.bounds a else state := by
    unfold perform state?
    dsimp only
    rw [List.find?_map, Option.map_map, Option.map_map, bounds_reach]
    have hsame : ((fun x : Series => decide (seriesKey x.values = seriesKey values')) ∘ fun x =>
        if seriesKey x.values = seriesKey values then { x with state := x.state.after i.bounds a }
        else x) = fun x => decide (seriesKey x.values = seriesKey values') := by
      funext x
      dsimp only [Function.comp_apply]
      split <;> rfl
    rw [hsame]
    refine Option.map_congr fun x hx => ?_
    have hkey : seriesKey x.values = seriesKey values' := by
      simpa using List.find?_some hx
    dsimp only [Function.comp_apply]
    rw [hkey]
    split <;> rfl
  rw [hperformed, state?_reach]
  split
  · rfl
  · rw [Option.map_id']

end Instrument

/-! ## Instances -/

namespace Instance

variable {x x' : Instance} {f : Facade} {accessor : String} {values : List String} {a : Action}
  {state : State}

/-- Which metric an accessor belongs to is told by the facade. -/
theorem findIdx?_of (h : x.Of f) (accessor : String) :
    x.instruments.findIdx? (fun i => answersTo accessor i.metric) =
      f.metrics.findIdx? (answersTo accessor) := by
  rw [← h.metrics, List.findIdx?_map, Function.comp_def]

theorem metric_of (h : x.Of f) {k : Nat} {m : Metric.Resolved} (hm : f.metrics[k]? = some m) :
    ∃ i, x.instruments[k]? = some i ∧ i.metric = m := by
  rw [← h.metrics, List.getElem?_map] at hm
  exact Option.map_eq_some_iff.1 hm

theorem state?_call (hx : x.Of f) (h : x.call accessor values a = some (x', state)) {k : Nat}
    {m : Metric.Resolved} (hm : f.metrics[k]? = some m) (values' : List String) :
    x'.state? k values' =
      if f.metrics.findIdx? (answersTo accessor) = some k ∧
          Instrument.seriesKey values' = Instrument.seriesKey values then
        State.next m (x.state? k values') a
      else x.state? k values' := by
  obtain ⟨j, i, hj, hi, rfl, -⟩ := call_eq_some h
  rw [findIdx?_of hx] at hj
  rw [hj]
  unfold Instance.state?
  by_cases hjk : j = k
  · subst hjk
    obtain ⟨i', hi', rfl⟩ := metric_of hx hm
    rw [hi] at hi'
    cases hi'
    rw [List.getElem?_set_self (List.getElem?_eq_some_iff.1 hi).1, hi]
    simp only [bind, Option.bind_some, Instrument.state?_perform, true_and]
  · rw [if_neg fun heq => hjk (Option.some.inj heq.1), List.getElem?_set_ne hjk]

end Instance

/-! ## Families -/

/-- What is measured is found in the family of its name. -/
theorem mem_arrange {fs : List Family} {g : Family} {x : Measurement} (hg : g ∈ fs)
    (hx : x ∈ g.measurements) :
    ∃ g' ∈ Family.arrange fs, g'.name = g.name ∧ x ∈ g'.measurements := by
  have hpresent : g ∈ fs.filter fun g => !g.measurements.isEmpty := by
    refine List.mem_filter.2 ⟨hg, ?_⟩
    rw [Bool.not_eq_true', List.isEmpty_eq_false_iff]
    exact List.ne_nil_of_mem hx
  have hgroup := (@mem_groupBy _ _ _ textLe (fun g : Family => g.name) _ g.name _).2
    ⟨⟨g, hpresent, rfl⟩, rfl⟩
  refine ⟨_, List.mem_map_of_mem hgroup, rfl, ?_⟩
  dsimp only [Family.merge]
  rw [mem_sortBy]
  exact List.mem_flatMap.2 ⟨g, List.mem_filter.2 ⟨hpresent, decide_eq_true rfl⟩, hx⟩

/-- The families tell the state of the series of the metric that these label values lead to. -/
def Shown (fs : List Family) (m : Metric.Resolved) (values : List String) (state : State) : Prop :=
  ∃ g ∈ fs, g.name = m.name ∧ ∃ values',
    Instrument.seriesKey values' = Instrument.seriesKey values ∧
      (Instrument.mk m []).measurement ⟨values', state⟩ ∈ g.measurements

theorem shown_of_family {fs : List Family} {i : Instrument} (hfamily : i.family ∈ fs)
    {values : List String} {state : State} (hstate : i.state? values = some state) :
    Shown (Family.arrange fs) i.metric values state := by
  obtain ⟨y, hy, rfl⟩ := Option.map_eq_some_iff.1 hstate
  have hkey : Instrument.seriesKey y.values = Instrument.seriesKey values := by
    simpa using List.find?_some hy
  obtain ⟨g, hg, hname, hmeasured⟩ := mem_arrange hfamily
    (List.mem_map_of_mem (List.mem_of_find?_eq_some hy))
  exact ⟨g, hg, hname, y.values, hkey, hmeasured⟩

/-! ## One operation -/

namespace Operation

theorem updates_cons (f : Facade) (r : Session.Reference) (k : Nat) (values : List String)
    (entry : Operation × Answer) (record : Record) : updates f r k values (entry :: record) =
      (update? f r k values entry).toList ++ updates f r k values record := by
  unfold updates
  rw [List.filterMap_cons]
  cases update? f r k values entry <;> rfl

/-- What holds before, and of whatever something has led to, holds afterwards. -/
theorem settle_keeps {σ α : Type} {I : σ → Prop} {s : σ} (hs : I s) {answer : Option α → Answer}
    {result : Option (σ × α)} (h : ∀ s' a, result = some (s', a) → I s') :
    I (settle s answer result).1 := by
  cases hresult : result with
  | none => exact hs
  | some moved => exact h moved.1 moved.2 hresult

end Operation

theorem instances_call {st st' : Store} {number : Nat} {accessor : String} {values : List String}
    {a : Action} {state : State} (h : st.call number accessor values a = some (st', state)) :
    ∃ x x', st.instances[number]? = some x ∧ x.call accessor values a = some (x', state) ∧
      st' = { st with instances := st.instances.set number x' } := by
  unfold Store.call at h
  obtain ⟨x, hx, h⟩ := Option.bind_eq_some_iff.1 h
  obtain ⟨⟨x', state'⟩, hx', h⟩ := Option.bind_eq_some_iff.1 h
  cases h
  exact ⟨x, x', hx, hx', rfl⟩

namespace Session

variable {s : Session} {number : Nat} {st : Store}

theorem instance?_put (hst : s.stores[number]? = some st) (st' : Store) (r : Reference) :
    (s.put number st').instance? r =
      if r.store = number then st'.instances[r.number]? else s.instance? r := by
  unfold instance?
  split
  · next hsame =>
    rw [hsame, stores_put_self hst]
    rfl
  · next hne => rw [stores_put, List.getElem?_set_ne (Ne.symm hne)]

theorem instance?_of_store (hst : s.stores[number]? = some st) {r : Reference}
    (hr : r.store = number) : s.instance? r = st.instances[r.number]? := by
  unfold instance?
  rw [hr, hst]
  rfl

end Session

variable [Digest]

theorem instances_create (st : Store) (handle : Handle) (f : Facade) :
    (st.create handle f).1.instances = st.instances ∨
      (st.create handle f).1.instances = st.instances ++ [.ofFacade f] := by
  rcases st.create_cases handle f with ⟨n, -, heq⟩ | ⟨-, why, dims, -, heq⟩ | ⟨-, registry, -, heq⟩
  · exact .inl (by rw [heq])
  · exact .inl (by rw [heq])
  · exact .inr (by rw [heq])

namespace Session

variable {s : Session}

/-- An operation leaves an instance as it is, or makes it, or is an action on it. -/
inductive Step (s : Session) (op : Operation) (r : Reference) : Prop
  | same (h : (s.perform op).1.instance? r = s.instance? r)
      (hnone : ∀ f k values, Operation.update? f r k values (op, (s.perform op).2) = none)
  | made (h : s.instance? r = none) {f : Facade}
      (hmade : (s.perform op).1.instance? r = some (.ofFacade f))
      (hnone : ∀ f k values, Operation.update? f r k values (op, (s.perform op).2) = none)
  | acted {x x' : Instance} {accessor : String} {values : List String} {a : Action} {state : State}
      (h : s.instance? r = some x) (hop : op = .call r accessor values a)
      (hcall : x.call accessor values a = some (x', state))
      (hacted : (s.perform op).1.instance? r = some x')
      (hanswer : (s.perform op).2 = .series (some state))

theorem step_create {handle : Handle} {f : Facade} {op : Operation} {number : Nat} {st : Store}
    (hst : s.stores[number]? = some st)
    (hput : (s.perform op).1 = s.put number (st.create handle f).1)
    (hnone : ∀ r f k values, Operation.update? f r k values (op, (s.perform op).2) = none)
    (r : Reference) : s.Step op r := by
  by_cases hr : r.store = number
  · have hafter : (s.perform op).1.instance? r = (st.create handle f).1.instances[r.number]? := by
      rw [hput, instance?_put hst, if_pos hr]
    have hbefore := instance?_of_store hst hr
    rcases instances_create st handle f with hsame | hadded
    · exact .same (by rw [hafter, hbefore, hsame]) (hnone r)
    · rw [hadded, List.getElem?_append] at hafter
      split at hafter
      · exact .same (by rw [hafter, hbefore]) (hnone r)
      · next hout =>
        have hnew : s.instance? r = none := by
          rw [hbefore, List.getElem?_eq_none (Nat.not_lt.1 hout)]
        cases hfirst : r.number - st.instances.length with
        | zero =>
          rw [hfirst] at hafter
          exact .made hnew hafter (hnone r)
        | succ n =>
          rw [hfirst] at hafter
          exact .same (by rw [hafter, hnew]; rfl) (hnone r)
  · exact .same (by rw [hput, instance?_put hst, if_neg hr]) (hnone r)

theorem step_call {r' : Reference} {accessor : String} {values : List String} {a : Action}
    {st st' : Store} {state : State} (hst : s.stores[r'.store]? = some st)
    (hcall : st.call r'.number accessor values a = some (st', state))
    (heq : s.perform (.call r' accessor values a) = (s.put r'.store st', .series (some state)))
    (r : Reference) : s.Step (.call r' accessor values a) r := by
  obtain ⟨x, x', hx, hx', rfl⟩ := instances_call hcall
  by_cases hr : r' = r
  · subst hr
    have hafter : (s.perform (.call r' accessor values a)).1.instance? r' = some x' := by
      rw [heq, instance?_put hst, if_pos rfl]
      exact List.getElem?_set_self (List.getElem?_eq_some_iff.1 hx).1
    exact .acted (by rw [instance?_of_store hst rfl, hx]) rfl hx' hafter (by rw [heq])
  · refine .same ?_ fun f k values' => ?_
    · rw [heq, instance?_put hst]
      split
      · next hstore =>
        have hnumber : r'.number ≠ r.number := by
          intro hsame
          cases r
          cases r'
          cases hstore
          cases hsame
          exact hr rfl
        rw [List.getElem?_set_ne hnumber, instance?_of_store hst hstore]
      · rfl
    · rw [heq, Operation.update?, if_neg fun hthis => hr hthis.1]

theorem step (s : Session) (op : Operation) (r : Reference) : s.Step op r := by
  rcases s.perform_cases op with ⟨number, st, hop, hst, heq⟩ | heq
  · cases op with
    | create f =>
      exact step_create hst (by rw [heq]; rfl) (fun _ _ _ _ => rfl) r
    | createWith handle f =>
      exact step_create hst (by rw [heq]; rfl) (fun _ _ _ _ => rfl) r
    | call r' accessor values a =>
      cases hop
      rw [Store.perform] at heq
      cases hcall : st.call r'.number accessor values a with
      | none =>
        rw [hcall] at heq
        refine .same ?_ ?_
        · rw [heq, instance?_put hst]
          split
          · next hstore => exact (instance?_of_store hst hstore).symm
          · rfl
        · rw [heq]
          exact fun _ _ _ => rfl
      | some result =>
        rw [hcall] at heq
        exact step_call hst hcall heq r
  · refine .same (by rw [heq]) ?_
    rw [heq]
    cases op <;> exact fun _ _ _ => rfl

/-! ## Runs -/

/-- The reference leads to an instance of the facade, if to any. -/
def Fits (s : Session) (f : Facade) (r : Reference) : Prop :=
  ∀ x ∈ s.instance? r, x.Of f

variable {f : Facade} {r : Reference}

/-- An instance is of the same facade from the first. -/
theorem fits_of_perform {op : Operation} (h : (s.perform op).1.Fits f r) : s.Fits f r := by
  cases s.step op r with
  | same hsame _ =>
    rw [Fits, hsame] at h
    exact h
  | made hnew _ _ =>
    rw [Fits, hnew]
    nofun
  | acted hthere _ hcall hacted _ =>
    rw [Fits, hthere]
    rw [Fits, hacted] at h
    rintro x ⟨⟩
    exact (Instance.of_call_iff hcall).1 (h _ rfl)

theorem fits_of_carryOut {ops : List Operation} (h : (s.after ops).Fits f r) : s.Fits f r := by
  induction ops generalizing s with
  | nil => exact h
  | cons op ops ih => exact fits_of_perform (ih h)

/-- A series after an operation is what the action on it, if it is one, makes of it. -/
theorem state?_step {op : Operation} (h : (s.perform op).1.Fits f r) {k : Nat}
    {m : Metric.Resolved} (hm : f.metrics[k]? = some m) (values : List String) :
    ((s.perform op).1.instanceOf f r).state? k values =
      ((Operation.update? f r k values (op, (s.perform op).2)).toList).foldl (State.next m)
        ((s.instanceOf f r).state? k values) := by
  have hbefore := fits_of_perform h
  cases s.step op r with
  | same hsame hnone =>
    rw [hnone, instanceOf, instanceOf, hsame]
    rfl
  | @made hnew f' hmade hnone =>
    have hfacade : f' = f := (h _ hmade).facade
    rw [hnone, instanceOf, instanceOf, hnew, hmade, hfacade]
    rfl
  | @acted x x' accessor values' a state hthere hop hcall hacted hanswer =>
    have hx := hbefore x hthere
    rw [instanceOf, instanceOf, hacted, hthere, hanswer, hop, Option.getD_some, Option.getD_some,
      Instance.state?_call hx hcall hm, Operation.update?]
    simp only [true_and]
    split <;> rfl

/-- A series after a run is what all actions on it, one after the other, make of it. -/
theorem state?_carryOut {ops : List Operation}
    (h : (s.after ops).Fits f r) {k : Nat} {m : Metric.Resolved}
    (hm : f.metrics[k]? = some m) (values : List String) :
    ((s.after ops).instanceOf f r).state? k values =
      (Operation.updates f r k values (s.record ops)).foldl (State.next m)
        ((s.instanceOf f r).state? k values) := by
  induction ops generalizing s with
  | nil => rfl
  | cons op ops ih =>
    rw [after_cons] at h ⊢
    have hstep := state?_step (fits_of_carryOut h) hm values
    rw [ih h, hstep, ← List.foldl_append, record_cons, Operation.updates_cons]

/-! ## What is listed -/

variable {handle : Handle}

theorem created?_createWith (h : s.created? handle f = some r) {s' : Session} {handle' : Handle}
    {f' : Facade} {outcome : Cache.Attempt Reference Rejection}
    (hgiven : s.createWith handle' f' = some (s', outcome)) : s'.created? handle f = some r := by
  rcases createWith_ends hgiven with ⟨r', rfl⟩ | ⟨why, rfl⟩
  · obtain ⟨honly, hlisted⟩ := createWith_made hgiven
    rw [hlisted]
    split
    · next hkey =>
      obtain ⟨rfl, rfl⟩ := hkey
      rw [honly r h]
    · exact h
  · rw [← created?_contents, (createWith_failed hgiven).1, created?_contents, h]

/-- What is listed stays listed. -/
theorem created?_perform (h : s.created? handle f = some r) (op : Operation) :
    (s.perform op).1.created? handle f = some r := by
  cases op with
  | create f' | createWith handle' f' =>
    exact Operation.settle_keeps (I := (created? · handle f = some r)) h
      fun _ _ hgiven => created?_createWith h hgiven
  | call r' accessor values a =>
    refine Operation.settle_keeps (I := (created? · handle f = some r)) h
      fun s' state hcalled => ?_
    cases hst : s.stores[r'.store]? with
    | none =>
      unfold Session.call at hcalled
      rw [hst] at hcalled
      cases hcalled
    | some st =>
      rw [call_of_store hst] at hcalled
      obtain ⟨⟨st', state'⟩, hcall, hmoved⟩ := Option.map_eq_some_iff.1 hcalled
      cases hmoved
      rw [created?_put_same hst (Store.created_call hcall), h]

/-- Whoever is given a facade is given the one that is listed. -/
theorem created?_of_given {op : Operation} (hasked : op.asked? = some (handle, f))
    (hgiven : (s.perform op).2 = .facade (some (.made r))) :
    (s.perform op).1.created? handle f = some r := by
  have hcreate : (s.perform (.createWith handle f)).2 = .facade (some (.made r)) →
      (s.perform (.createWith handle f)).1.created? handle f = some r := by
    intro hgiven
    rw [perform] at hgiven ⊢
    cases hresult : s.createWith handle f with
    | none =>
      rw [hresult] at hgiven
      cases hgiven
    | some result =>
      rw [hresult] at hgiven
      obtain ⟨s', outcome⟩ := result
      cases hgiven
      exact ((createWith_made hresult).2 handle f).trans (if_pos ⟨rfl, rfl⟩)
  cases op with
  | create f' | createWith handle' f' =>
    cases hasked
    exact hcreate hgiven
  | call => cases hasked

theorem created?_of_record {ops : List Operation} {entry : Operation × Answer}
    (hentry : entry ∈ s.record ops) (hasked : entry.1.asked? = some (handle, f))
    (hgiven : entry.2 = .facade (some (.made r))) :
    (s.after ops).created? handle f = some r := by
  induction ops generalizing s with
  | nil => cases hentry
  | cons op ops ih =>
    rw [record_cons] at hentry
    rw [after_cons]
    rcases List.mem_cons.1 hentry with rfl | hlater
    · exact Operation.carryOut_keeps (I := (created? · handle f = some r))
        (fun _ op h => created?_perform h op) (created?_of_given hasked hgiven) ops
    · exact ih hlater

/-! ## What a registry tells -/

/-- A registry tells of the facades that are listed for its handles what their series have come to. -/
theorem Sound.shown (hs : s.Sound) (h : s.created? handle f = some r) {x : Instance}
    (hx : s.instance? r = some x) {k : Nat} {m : Metric.Resolved} (hm : f.metrics[k]? = some m)
    {values : List String} {state : State} (hstate : x.state? k values = some state) :
    Shown (s.gather handle) m values state := by
  obtain ⟨st, hhandle, hst, hn⟩ := created?_eq_some.1 h
  obtain ⟨x', hx', hof, hin⟩ := (hs.stores st (List.mem_of_getElem? hst)).whole _ _ hn
  rw [instance?_of_store hst rfl] at hx
  obtain rfl : x' = x := Option.some.inj (hx'.symm.trans hx)
  obtain ⟨i, hi, rfl⟩ := Instance.metric_of hof hm
  rw [Instance.state?, hi] at hstate
  have hcollector : ⟨[i.descriptor], .ofFacade r.number k⟩ ∈ x'.collectors r.number :=
    List.mem_map.2 ⟨(i, k), List.mk_mem_zipIdx_iff_getElem?.2 hi, rfl⟩
  have hinstrument : st.instrument? (.ofFacade r.number k) = some i := by
    rw [Store.instrument?, hx]
    exact hi
  have hfamily : i.family ∈ st.registry.collectors.flatMap st.families := by
    refine List.mem_flatMap.2 ⟨_, hin _ hcollector, ?_⟩
    rw [Store.families, hinstrument]
    exact List.mem_singleton.2 rfl
  have hgather : s.gather handle = Family.arrange (st.registry.collectors.flatMap st.families) := by
    rw [gather, store?_of_handle hhandle hst]
    rfl
  rw [hgather]
  exact shown_of_family hfamily hstate

end Session

end MetricFacade.Live
