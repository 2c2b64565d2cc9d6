import MetricFacade.Live.Operation
import MetricFacade.Proofs.Live.History

/-!
# Where operations act

An operation looks at the store of the registry that it is addressed to and at nothing else, and
changes nothing else. So it does the same in any two sessions that agree on that store, and a
registry does not see operations that are addressed elsewhere.

Results:

* `perform_of_store`, `perform_cases`: an operation is one on its store, or comes to nothing.
* `Session.Agree.perform`, `Session.Agree.elsewhere`: what it does to two sessions that agree on a
  registry.
* `carryOut_filter`: with the operations that are addressed elsewhere left out, a registry goes the
  same way and gives the same answers.
-/
namespace MetricFacade.Live

open Registry

/-! ## Runs -/

namespace Operation

section

variable {σ τ : Type} {step : σ → Operation → σ × Answer} {step' : τ → Operation → τ × Answer}

theorem carryOut_cons (s : σ) (op : Operation) (ops : List Operation) :
    carryOut step s (op :: ops) = ((carryOut step (step s op).1 ops).1,
      (op, (step s op).2) :: (carryOut step (step s op).1 ops).2) := rfl

/-- What every operation keeps, a run keeps. -/
theorem carryOut_keeps {I : σ → Prop} (h : ∀ s op, I s → I (step s op).1) {s : σ} (hs : I s)
    (ops : List Operation) : I (carryOut step s ops).1 := by
  induction ops generalizing s with
  | nil => exact hs
  | cons op ops ih => exact ih (h s op hs)

/-- Two runs side by side give the same answers if every operation does. -/
theorem carryOut_alike {R : σ → τ → Prop}
    (h : ∀ s t op, R s t → (step s op).2 = (step' t op).2 ∧ R (step s op).1 (step' t op).1)
    {s : σ} {t : τ} (hst : R s t) (ops : List Operation) :
    (carryOut step s ops).2 = (carryOut step' t ops).2 ∧
      R (carryOut step s ops).1 (carryOut step' t ops).1 := by
  induction ops generalizing s t with
  | nil => exact ⟨rfl, hst⟩
  | cons op ops ih =>
    obtain ⟨hanswer, hnext⟩ := h s t op hst
    obtain ⟨hrecord, hend⟩ := ih hnext
    rw [carryOut_cons, carryOut_cons, hanswer, hrecord]
    exact ⟨rfl, hend⟩

end

/-- The answer of an operation that is addressed to no store. -/
def refused : Operation → Answer
  | create _ | createWith .. => .facade none
  | call .. => .series none

end Operation

theorem Store.created_call {st st' : Store} {number : Nat} {accessor : String}
    {values : List String} {a : Action} {state : State}
    (h : st.call number accessor values a = some (st', state)) : st'.created = st.created := by
  unfold Store.call at h
  obtain ⟨x, -, h⟩ := Option.bind_eq_some_iff.1 h
  obtain ⟨y, -, h⟩ := Option.bind_eq_some_iff.1 h
  cases h
  rfl

namespace Session

variable {s t : Session} {number : Nat} {st : Store}

theorem call_of_store {r : Reference} (hst : s.stores[r.store]? = some st) (accessor : String)
    (values : List String) (a : Action) :
    s.call r accessor values a = (st.call r.number accessor values a).map
      fun (st, state) => (s.put r.store st, state) := by
  unfold call
  simp only [bind, pure, hst, Option.bind_some]
  cases st.call r.number accessor values a <;> rfl

/-! ## Sessions that agree on a registry -/

/-- The sessions have the same handles, and the same store of this number. -/
structure Agree (number : Nat) (s t : Session) : Prop where
  handles : s.handles = t.handles
  store : s.stores[number]? = t.stores[number]?

theorem Agree.refl (number : Nat) (s : Session) : Agree number s s :=
  ⟨rfl, rfl⟩

theorem stores_put_self (hst : s.stores[number]? = some st) (st' : Store) :
    (s.put number st').stores[number]? = some st' :=
  List.getElem?_set_self (List.getElem?_eq_some_iff.1 hst).1

theorem Agree.gather (h : Agree number s t) {handle : Handle}
    (hhandle : s.handles[handle]? = some number) : s.gather handle = t.gather handle := by
  unfold Session.gather store?
  rw [← h.handles, hhandle]
  simp only [bind, Option.bind_some]
  rw [h.store]

end Session

/-! ## One operation -/

variable [Digest]

/-- What the operation does to the store with this number, if it is addressed to it. -/
def Store.perform (number : Nat) (st : Store) : Operation → Store × Answer
  | .create f => createAs Session.defaultHandle f
  | .createWith handle f => createAs handle f
  | .call r accessor values a => Operation.settle st .series (st.call r.number accessor values a)
where
  createAs (handle : Handle) (f : Facade) : Store × Answer :=
    ((st.create handle f).1, .facade (some ((st.create handle f).2.map fun n => ⟨number, n⟩)))

namespace Session

variable {s t : Session} {number : Nat} {st : Store} {op : Operation}

theorem createWith_of_handle {handle : Handle} (hhandle : s.handles[handle]? = some number)
    (hst : s.stores[number]? = some st) (f : Facade) :
    s.createWith handle f = some (s.put number (st.create handle f).1,
      (st.create handle f).2.map fun n => ⟨number, n⟩) := by
  unfold createWith act
  simp only [bind, pure, hhandle, hst, Option.bind_some]
  cases (st.create handle f).2 <;> rfl

theorem perform_of_store (h : op.registry? s.handles = some number)
    (hst : s.stores[number]? = some st) :
    s.perform op = (s.put number (st.perform number op).1, (st.perform number op).2) := by
  have hcreate : ∀ handle f, s.handles[handle]? = some number →
      s.perform (.createWith handle f) =
        (s.put number (st.create handle f).1, (Store.perform.createAs number st handle f).2) := by
    intro handle f hhandle
    rw [perform, createWith_of_handle hhandle hst]
    rfl
  cases op with
  | create f => exact hcreate defaultHandle f h
  | createWith handle f => exact hcreate handle f h
  | call r accessor values a =>
    cases h
    rw [perform, call_of_store hst, Store.perform]
    cases st.call r.number accessor values a with
    | none =>
      have hsame : s.put r.store st = s := by
        rw [put, set_of_getElem? hst]
      simp [Operation.settle, hsame]
    | some result => rfl

theorem createWith_of_none {handle : Handle}
    (h : ∀ number, s.handles[handle]? = some number → s.stores[number]? = none) (f : Facade) :
    s.createWith handle f = none := by
  cases hhandle : s.handles[handle]? with
  | none =>
    unfold createWith
    rw [hhandle]
    rfl
  | some number =>
    unfold createWith act
    simp only [bind, hhandle, h number hhandle, Option.bind_some, Option.bind_none]

theorem perform_of_none (h : ∀ number, op.registry? s.handles = some number →
    s.stores[number]? = none) : s.perform op = (s, op.refused) := by
  have hcreate : ∀ handle f, (∀ number, s.handles[handle]? = some number →
      s.stores[number]? = none) → s.perform (.createWith handle f) = (s, .facade none) := by
    intro handle f hnone
    rw [perform, createWith_of_none hnone]
    rfl
  cases op with
  | create f => exact hcreate defaultHandle f h
  | createWith handle f => exact hcreate handle f h
  | call r accessor values a =>
    rw [perform, call, h r.store rfl]
    rfl

/-- An operation is one on the store that it is addressed to, or changes nothing. -/
theorem perform_cases (s : Session) (op : Operation) :
    (∃ number st, op.registry? s.handles = some number ∧ s.stores[number]? = some st ∧
      s.perform op = (s.put number (st.perform number op).1, (st.perform number op).2)) ∨
    s.perform op = (s, op.refused) := by
  by_cases h : ∃ number st, op.registry? s.handles = some number ∧ s.stores[number]? = some st
  · obtain ⟨number, st, hop, hst⟩ := h
    exact .inl ⟨number, st, hop, hst, perform_of_store hop hst⟩
  · refine .inr (perform_of_none fun number hop => ?_)
    rw [Option.eq_none_iff_forall_ne_some]
    exact fun st hst => h ⟨number, st, hop, hst⟩

@[simp] theorem handles_perform (s : Session) (op : Operation) :
    (s.perform op).1.handles = s.handles := by
  rcases s.perform_cases op with ⟨number, st, -, -, heq⟩ | heq
  · rw [heq, handles_put]
  · rw [heq]

/-! ## Operations on sessions that agree -/

/-- An operation on the registry does the same in both, and they still agree. -/
theorem Agree.perform (h : Agree number s t) (hop : op.registry? s.handles = some number) :
    (s.perform op).2 = (t.perform op).2 ∧ Agree number (s.perform op).1 (t.perform op).1 := by
  have hop' := h.handles ▸ hop
  cases hst : s.stores[number]? with
  | none =>
    have hnone : ∀ {u : Session}, op.registry? u.handles = some number →
        u.stores[number]? = none → u.perform op = (u, op.refused) := by
      intro u hu hst
      refine perform_of_none fun number' hnumber' => ?_
      rw [hu] at hnumber'
      cases hnumber'
      exact hst
    rw [hnone hop hst, hnone hop' (h.store ▸ hst)]
    exact ⟨rfl, h⟩
  | some st =>
    have hst' := h.store ▸ hst
    rw [perform_of_store hop hst, perform_of_store hop' hst']
    refine ⟨rfl, ⟨h.handles, ?_⟩⟩
    rw [stores_put_self hst, stores_put_self hst']

/-- An operation on another registry leaves the agreement as it was. -/
theorem Agree.elsewhere (h : Agree number s t) (hop : op.registry? s.handles ≠ some number) :
    Agree number (s.perform op).1 t := by
  refine ⟨by rw [handles_perform, h.handles], ?_⟩
  rw [← h.store]
  rcases s.perform_cases op with ⟨number', st, hop', -, heq⟩ | heq
  · have hne : number' ≠ number := fun hsame => hop (hsame ▸ hop')
    rw [heq, stores_put, List.getElem?_set_ne hne]
  · rw [heq]

theorem after_cons (s : Session) (op : Operation) (ops : List Operation) :
    s.after (op :: ops) = (s.perform op).1.after ops := rfl

theorem record_cons (s : Session) (op : Operation) (ops : List Operation) :
    s.record (op :: ops) = (op, (s.perform op).2) :: (s.perform op).1.record ops := rfl

@[simp] theorem handles_after (s : Session) (ops : List Operation) :
    (s.after ops).handles = s.handles := by
  induction ops generalizing s with
  | nil => rfl
  | cons op ops ih => rw [after_cons, ih, handles_perform]

/-- Without the operations that are addressed elsewhere, a registry goes the same way. -/
theorem carryOut_filter (h : Agree number s t) (ops : List Operation) :
    Agree number (s.after ops) (t.after (ops.filter (·.addresses s.handles number))) ∧
      t.record (ops.filter (·.addresses s.handles number)) =
        (s.record ops).filter fun entry => entry.1.addresses s.handles number := by
  induction ops generalizing s t with
  | nil => exact ⟨h, rfl⟩
  | cons op ops ih =>
    by_cases hop : op.registry? s.handles = some number
    · obtain ⟨hanswer, hnext⟩ := h.perform hop
      obtain ⟨hend, hrecord⟩ := ih hnext
      have hkept : op.addresses s.handles number = true := decide_eq_true hop
      rw [handles_perform] at hend hrecord
      rw [List.filter_cons_of_pos hkept, after_cons, after_cons, record_cons, record_cons, hrecord,
        ← hanswer]
      exact ⟨hend, by simp [hkept]⟩
    · obtain ⟨hend, hrecord⟩ := ih (h.elsewhere hop)
      have hdropped : ¬ op.addresses s.handles number = true := fun hkept =>
        hop (of_decide_eq_true hkept)
      rw [handles_perform] at hend hrecord
      rw [List.filter_cons_of_neg hdropped, after_cons, record_cons, hrecord]
      exact ⟨hend, by simp [hdropped]⟩

end Session

end MetricFacade.Live
