import MetricFacade.Live.Session

/-!
# Histories of sessions

Facades are created in the registries of a running program, and used. Meanwhile somebody else
makes registries and handles, registers collectors there and takes them back. A history is
the session that all this has led to, with the facades that were asked for and what came of it.
-/
namespace MetricFacade.Live

open Registry

/-- A collector that somebody else makes. -/
structure Foreign where
  descriptors : List Descriptor
  instrument : Instrument

def Foreign.collector (c : Foreign) : Collector Source :=
  ⟨c.descriptors, .foreign c.instrument⟩

def Source.isForeign : Source → Bool
  | foreign _ => true
  | ofFacade .. => false

/-- Somebody else takes back a collector. Nobody takes away what is a facade's, so this comes
to nothing where a facade's collector would be taken for it. -/
def Store.withdraw [Digest] (s : Store) (c : Collector Source) : Store × Except Rejection Unit :=
  if s.registry.collectors.all fun d => d.key ≠ c.key || d.source.isForeign then s.leave c
  else (s, .error .notRegistered)

/-- What happens in a session. -/
inductive Event where
  | addRegistry
  | wrap (handle : Handle)
  | create (f : Facade)
  | createWith (handle : Handle) (f : Facade)
  | call (r : Session.Reference) (accessor : String) (values : List String) (a : Action)
  | register (handle : Handle) (c : Foreign)
  | registerAll (handle : Handle) (cs : List Foreign)
  | unregister (handle : Handle) (c : Foreign)

/-- A facade that was asked for, and what came of it. -/
structure Creation where
  handle : Handle
  facade : Facade
  outcome : Cache.Attempt Session.Reference Rejection

structure History where
  session : Session := .start
  /-- In the order in which they were asked for. -/
  creations : List Creation := []

namespace History

/-- With the session that something has led to. What could not be done changes nothing. -/
def moved {α : Type} (w : History) (result : Option (Session × α)) : History :=
  match result with
  | some (s, _) => { w with session := s }
  | none => w

/-- With the answer to somebody who asked for a facade. -/
def answered (w : History) (handle : Handle) (f : Facade)
    (result : Option (Session × Cache.Attempt Session.Reference Rejection)) : History :=
  match result with
  | some (s, outcome) => ⟨s, w.creations ++ [⟨handle, f, outcome⟩]⟩
  | none => w

variable [Digest]

def next (w : History) : Event → History
  | .addRegistry => { w with session := w.session.addRegistry.1 }
  | .wrap handle => w.moved (w.session.wrap handle)
  | .create f => w.answered Session.defaultHandle f (w.session.create f)
  | .createWith handle f => w.answered handle f (w.session.createWith handle f)
  | .call r accessor values a => w.moved (w.session.call r accessor values a)
  | .register handle c => w.moved (w.session.act handle fun st => st.enter c.collector)
  | .registerAll handle cs =>
    w.moved (w.session.act handle fun st => st.enterAll (cs.map (·.collector)))
  | .unregister handle c => w.moved (w.session.act handle fun st => st.withdraw c.collector)

def run (w : History) (events : List Event) : History :=
  events.foldl next w

end History

end MetricFacade.Live
