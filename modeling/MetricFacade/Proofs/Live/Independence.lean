import MetricFacade.Proofs.Live.Accumulation
import MetricFacade.Proofs.Live.Process

/-!
# Registries apart from each other

Facades of many registries are used in turn. What a registry tells depends on what was asked of
its own facades, and on nothing else; and all who were given a facade for one handle share it, so
what they do adds up.

Results:

* `Session.Independent`: what this says of the operations that follow a session.
* `registries_independent`: it holds after every history, of all operations.
-/
namespace MetricFacade.Live

open Registry

section

variable [Digest]

namespace Session

theorem sound_after {s : Session} (hs : s.Sound) (ops : List Operation) : (s.after ops).Sound := by
  refine Operation.carryOut_keeps (I := Sound) (fun s op hs => ?_) hs ops
  cases op with
  | create f | createWith handle f =>
    exact Operation.settle_keeps (I := Sound) hs fun _ _ hgiven => hs.createWith hgiven
  | call r accessor values a =>
    exact Operation.settle_keeps (I := Sound) hs fun _ _ hcalled => (hs.call hcalled).1

/-- A registry has no two collectors of one key, so no two instances of one facade. -/
theorem Sound.shared {s : Session} (hs : s.Sound) {handle handle' : Handle} {f : Facade}
    {r r' : Reference} (h : s.created? handle f = some r) (h' : s.created? handle' f = some r')
    (hstore : r.store = r'.store) (hmetrics : f.metrics ≠ []) : r = r' := by
  obtain ⟨st, -, hst, hn⟩ := created?_eq_some.1 h
  obtain ⟨st', -, hst', hn'⟩ := created?_eq_some.1 h'
  rw [← hstore, hst] at hst'
  cases hst'
  have hsound := hs.stores st (List.mem_of_getElem? hst)
  obtain ⟨x, -, hof, hin⟩ := hsound.whole _ _ hn
  obtain ⟨x', -, hof', hin'⟩ := hsound.whole _ _ hn'
  obtain ⟨m, ms, hfirst⟩ := List.exists_cons_of_ne_nil hmetrics
  have hmetric : f.metrics[0]? = some m := congrArg (·[0]?) hfirst
  have hsame := List.inj_on_of_nodup_map hsound.keys
    (hin _ ((Instance.mem_collectors_iff hof).2 ⟨0, m, hmetric, rfl⟩))
    (hin' _ ((Instance.mem_collectors_iff hof').2 ⟨0, m, hmetric, rfl⟩)) rfl
  obtain ⟨store, number⟩ := r
  obtain ⟨store', number'⟩ := r'
  cases hstore
  cases hsame
  rfl

/-- What becomes of a session when the operations are carried out. -/
structure Independent (s : Session) (ops : List Operation) : Prop where
  /-- A registry tells what it tells without the operations on facades of other registries. -/
  gathered : ∀ handle number, s.handles[handle]? = some number →
    (s.after (ops.filter (·.addresses s.handles number))).gather handle = (s.after ops).gather handle
  /-- The operations on its facades are answered as they are without the others. -/
  answered : ∀ number, s.record (ops.filter (·.addresses s.handles number)) =
    (s.record ops).filter fun entry => entry.1.addresses s.handles number
  /-- Whoever is given a facade for a handle is given the one that is listed. -/
  given : ∀ entry ∈ s.record ops, ∀ handle f r, entry.1.asked? = some (handle, f) →
    entry.2 = .facade (some (.made r)) → (s.after ops).created? handle f = some r
  /-- What is listed for several handles to a registry is the same. -/
  shared : ∀ handle handle' f r r', (s.after ops).created? handle f = some r →
    (s.after ops).created? handle' f = some r' → r.store = r'.store → f.metrics ≠ [] → r = r'
  /-- A series of a facade that is listed has come to what all actions on it, through whatever
  handle, make of it in order; and the registry tells so. -/
  accumulated : ∀ handle f r, (s.after ops).created? handle f = some r →
    ∃ x, (s.after ops).instance? r = some x ∧ x.Of f ∧
      ∀ k m, f.metrics[k]? = some m → ∀ values,
        x.state? k values = (Operation.updates f r k values (s.record ops)).foldl (State.next m)
          ((s.instanceOf f r).state? k values) ∧
        ∀ state, x.state? k values = some state →
          Shown ((s.after ops).gather handle) m values state
  /-- All this is so with one cache for each type of facade, whatever the registries. -/
  cached : (Process.ofSession s).record ops = s.record ops ∧
    ∀ handle, ((Process.ofSession s).after ops).gather handle = (s.after ops).gather handle

variable {s : Session}

theorem accumulated_of_sound (hs : s.Sound) {ops : List Operation} {handle : Handle} {f : Facade}
    {r : Reference} (h : (s.after ops).created? handle f = some r) :
    ∃ x, (s.after ops).instance? r = some x ∧ x.Of f ∧
      ∀ k m, f.metrics[k]? = some m → ∀ values,
        x.state? k values = (Operation.updates f r k values (s.record ops)).foldl (State.next m)
          ((s.instanceOf f r).state? k values) ∧
        ∀ state, x.state? k values = some state →
          Shown ((s.after ops).gather handle) m values state := by
  have hsound := sound_after hs ops
  obtain ⟨st, -, hst, hn⟩ := created?_eq_some.1 h
  obtain ⟨x, hx, hof, -⟩ := (hsound.stores st (List.mem_of_getElem? hst)).whole _ _ hn
  rw [← instance?_of_store hst rfl] at hx
  have hfits : (s.after ops).Fits f r := by
    intro y hy
    obtain rfl : x = y := Option.some.inj (hx.symm.trans hy)
    exact hof
  have hinstance : (s.after ops).instanceOf f r = x := by
    rw [instanceOf, hx, Option.getD_some]
  refine ⟨x, hx, hof, fun k m hm values => ⟨?_, fun state => hsound.shown h hx hm⟩⟩
  rw [← hinstance]
  exact state?_carryOut hfits hm values

theorem independent_of_sound (hs : s.Sound) (ops : List Operation) : s.Independent ops where
  gathered := by
    intro handle number hhandle
    obtain ⟨hagree, -⟩ := carryOut_filter (Agree.refl number s) ops
    have hhandle' : (s.after ops).handles[handle]? = some number := by
      rw [handles_after, hhandle]
    exact (hagree.gather hhandle').symm
  answered number := (carryOut_filter (Agree.refl number s) ops).2
  given := fun _ hentry _ _ _ hasked hgiven => created?_of_record hentry hasked hgiven
  shared := fun _ _ _ _ _ h h' => (sound_after hs ops).shared h h'
  accumulated := fun _ _ _ h => accumulated_of_sound hs h
  cached := by
    obtain ⟨hrecord, hend⟩ := (Process.represents_ofSession s).carryOut ops
    exact ⟨hrecord, hend.gather⟩

end Session

/-- **Registries are independent.** Whatever is asked of facades in whatever registries: without the
operations on other registries' facades, each registry gives the same answers and tells the same;
and all handles to a facade of a registry act on the same series, so what they do adds up. -/
theorem registries_independent (events : List Event) (ops : List Operation) :
    (History.run {} events).session.Independent ops :=
  Session.independent_of_sound (History.inv_start.run events).session ops

end

/-- Two registries, and two creations of one facade in the first. -/
example :
    let f : Facade := ⟨"app", [(⟨"app", "Hits", .counter, none, "hits", ["kind"], []⟩ :
      Metric.Declaration).resolve]⟩
    let ops : List Operation := [.create f, .createWith 1 f, .call ⟨0, 0⟩ "hits" ["a"] (.add 1),
      .createWith 0 f, .call ⟨1, 0⟩ "hits" ["a"] (.add 5), .call ⟨0, 0⟩ "hits" ["a"] (.add 2)]
    (Session.start.addRegistry.1.record ops).filterMap (fun entry =>
      match entry.2 with
      | .series state => state
      | .facade _ => none) = [.number 1, .number 5, .number 3] := by
  decide +kernel

end MetricFacade.Live
