import Mathlib.Data.List.Perm.Basic
import Mathlib.Data.List.Sort
import MetricFacade.Backend
import MetricFacade.Proofs.Rust.WellNamed
import MetricFacade.Proofs.Text.ByteOrder
import MetricFacade.Rust.Checked

/-!
# The forest of modules

The namespaces of a list of facades may be beginnings of one another and come in any order. Every
non-empty beginning has its one module, and a facade is found where its namespace leads.

Results:

* `mem_placed_modulesAt`, `nodup_pathsOf`: which modules there are, and what they hold.
* `ascending_modulesAt`: siblings ascend.
* `settle_trunk`, `forest_eq_settleAll`: facades put in one after the other, each along the path of
  its namespace, give this forest.
* `forest_perm`: the order of the facades is not seen.
* `forest_arranged`: all of it, down to the emitted text.
-/
namespace MetricFacade.Rust

open MetricFacade.Metric

/-! ## Modules by their paths -/

mutual

/-- The module and all modules inside it, each with its path from where the outermost stands and
with the facade it holds. -/
def Module.placed : Module → List (List String × Option Facade)
  | .mk segment facade children =>
    ([segment], facade) :: (placedAll children).map fun below => (segment :: below.1, below.2)

/-- All modules of a forest. -/
def placedAll : List Module → List (List String × Option Facade)
  | [] => []
  | m :: rest => m.placed ++ placedAll rest

end

def pathsOf (modules : List Module) : List (List String) :=
  (placedAll modules).map (·.1)

theorem placedAll_eq (modules : List Module) : placedAll modules = modules.flatMap Module.placed := by
  induction modules with
  | nil => rw [placedAll, List.flatMap_nil]
  | cons m rest ih => rw [placedAll, List.flatMap_cons, ih]

theorem mem_placed {segment : String} {facade held : Option Facade} {children : List Module}
    {path : List String} :
    (path, held) ∈ (Module.mk segment facade children).placed ↔
      path = [segment] ∧ held = facade ∨
        ∃ below, path = segment :: below ∧ (below, held) ∈ placedAll children := by
  rw [Module.placed, List.mem_cons, List.mem_map, Prod.mk.injEq]
  refine or_congr_right ⟨?_, ?_⟩
  · rintro ⟨⟨below, _⟩, hmem, heq⟩
    obtain ⟨rfl, rfl⟩ := Prod.mk.inj heq
    exact ⟨below, rfl, hmem⟩
  · rintro ⟨below, rfl, hmem⟩
    exact ⟨(below, held), hmem, rfl⟩

/-- Siblings ascend by their segments, byte by byte. -/
def SiblingsAscend (modules : List Module) : Prop :=
  modules.Pairwise fun m n => Text.bytes m.segment < Text.bytes n.segment

/-- Inside the module siblings ascend, at every depth. -/
inductive Module.Ascending : Module → Prop where
  | mk {segment : String} {facade : Option Facade} {children : List Module}
      (siblings : SiblingsAscend children) (below : ∀ m ∈ children, Ascending m) :
      Ascending (.mk segment facade children)

/-! ## What the routes ask for -/

/-- The facade of the last route with this path. -/
def facadeAt (routes : List Route) (path : List String) : Option Facade :=
  ((routes.filter fun r => r.path = path).getLast?).map (·.facade)

/-- The routes through a module, seen from inside it. -/
def routesBelow (routes : List Route) (segment : String) : List Route :=
  (routes.filter fun r => r.path.head? = some segment).map Route.descend

/-- The segments that routes go on with, each once and ascending. -/
def nextSegments (routes : List Route) : List String :=
  (branches routes).map (·.1)

theorem head?_eq_iff {r : Route} {segment : String} :
    r.path.head? = some segment ↔ r.path = segment :: r.descend.path := by
  unfold Route.descend
  cases r.path with
  | nil => simp
  | cons s rest => simp

theorem mem_routesBelow {routes : List Route} {segment : String} {below : Route} :
    below ∈ routesBelow routes segment ↔ ⟨segment :: below.path, below.facade⟩ ∈ routes := by
  rw [routesBelow, List.mem_map]
  constructor
  · rintro ⟨r, hr, rfl⟩
    obtain ⟨hin, hhead⟩ := List.mem_filter.1 hr
    have hpath := head?_eq_iff.1 (of_decide_eq_true hhead)
    rwa [← hpath]
  · intro hin
    exact ⟨_, List.mem_filter.2 ⟨hin, by simp⟩, rfl⟩

theorem facadeAt_below (routes : List Route) (segment : String) (path : List String) :
    facadeAt (routesBelow routes segment) path = facadeAt routes (segment :: path) := by
  have hfilter : (routesBelow routes segment).filter (fun r => r.path = path) =
      (routes.filter fun r => r.path = segment :: path).map Route.descend := by
    rw [routesBelow, List.filter_map, List.filter_filter]
    congr 1
    refine List.filter_congr fun ⟨way, facade⟩ _ => ?_
    cases way with
    | nil => simp [Route.descend]
    | cons s rest => simp [Route.descend, Bool.and_comm]
  rw [facadeAt, hfilter, List.getLast?_map, Option.map_map]
  rfl

theorem mem_nextSegments {routes : List Route} {segment : String} :
    segment ∈ nextSegments routes ↔ ∃ r ∈ routes, ∃ rest, r.path = segment :: rest := by
  rw [nextSegments, branches, keys_groupBy, mem_distinctKeys, List.mem_map]
  constructor
  · rintro ⟨r, hr, hhead⟩
    obtain ⟨hin, hpath⟩ := cons_of_going hr hhead
    exact ⟨r, hin, _, hpath⟩
  · rintro ⟨r, hr, rest, hpath⟩
    exact ⟨r, List.mem_filter.2 ⟨hr, by simp [hpath]⟩, by simp [hpath]⟩

theorem nextSegments_ascending (routes : List Route) : (nextSegments routes).Pairwise (· < ·) :=
  textKeys_ascending

/-- One level of the forest. -/
theorem modulesAt_eq (depth : Nat) (routes : List Route) :
    modulesAt (depth + 1) routes = (nextSegments routes).map fun segment =>
      .mk segment (facadeAt routes [segment]) (modulesAt depth (routesBelow routes segment)) := by
  rw [modulesAt_succ, nextSegments, List.map_map]
  refine List.map_congr_left ?_
  rintro ⟨segment, through⟩ hbranch
  obtain ⟨-, rfl⟩ := mem_groupBy.1 hbranch
  have hbelow : ((routes.filter fun r => !r.path.isEmpty).filter fun r =>
      r.path.headD "" = segment).map Route.descend = routesBelow routes segment := by
    rw [routesBelow, List.filter_filter]
    congr 1
    refine List.filter_congr fun ⟨way, facade⟩ _ => ?_
    cases way with
    | nil => simp
    | cons s rest => simp
  have hhere : ((routesBelow routes segment).filter fun r => r.path.isEmpty).getLast?.map
      (·.facade) = facadeAt routes [segment] := by
    rw [← facadeAt_below, facadeAt]
    congr 2
    refine List.filter_congr fun r _ => ?_
    rw [Bool.eq_iff_iff, decide_eq_true_eq, List.isEmpty_iff]
  dsimp only [Function.comp_apply]
  rw [hbelow, hhere]

/-! ## The modules of some routes -/

/-- No route goes deeper than this. -/
def Within (depth : Nat) (routes : List Route) : Prop :=
  ∀ r ∈ routes, r.path.length ≤ depth

theorem Within.below {depth : Nat} {routes : List Route} (h : Within (depth + 1) routes)
    (segment : String) : Within depth (routesBelow routes segment) := by
  intro r hr
  have hlength := h _ (mem_routesBelow.1 hr)
  simpa using hlength

/-- There is a module for every non-empty beginning of a route, and it holds the facade of the
last route that ends there. -/
theorem mem_placed_modulesAt {depth : Nat} {routes : List Route} (hwithin : Within depth routes)
    {path : List String} {held : Option Facade} :
    (path, held) ∈ placedAll (modulesAt depth routes) ↔
      path ≠ [] ∧ (∃ r ∈ routes, path <+: r.path) ∧ held = facadeAt routes path := by
  induction depth generalizing routes path with
  | zero =>
    have hends : ∀ r ∈ routes, r.path = [] := fun r hr => List.length_eq_zero_iff.1
      (Nat.le_zero.1 (hwithin r hr))
    constructor
    · intro h
      simp [modulesAt, placedAll] at h
    · rintro ⟨hne, ⟨r, hr, hbegins⟩, -⟩
      rw [hends r hr, List.prefix_nil] at hbegins
      exact absurd hbegins hne
  | succ depth ih =>
    rw [modulesAt_eq, placedAll_eq, List.flatMap_map, List.mem_flatMap]
    simp only [mem_placed, mem_nextSegments]
    constructor
    · rintro ⟨segment, ⟨r, hr, rest, hpath⟩, ⟨rfl, rfl⟩ | ⟨below, rfl, hbelow⟩⟩
      · exact ⟨List.cons_ne_nil segment [], ⟨r, hr, rest, hpath.symm⟩, rfl⟩
      · obtain ⟨-, ⟨q, hq, hbegins⟩, rfl⟩ := (ih (hwithin.below segment)).1 hbelow
        refine ⟨List.cons_ne_nil segment below, ?_, facadeAt_below routes segment below⟩
        exact ⟨_, mem_routesBelow.1 hq, List.cons_prefix_cons.2 ⟨rfl, hbegins⟩⟩
    · rintro ⟨hne, ⟨⟨way, facade⟩, hr, hbegins⟩, rfl⟩
      obtain ⟨segment, below, rfl⟩ := List.exists_cons_of_ne_nil hne
      obtain ⟨rest, rfl⟩ := hbegins
      refine ⟨segment, ⟨_, hr, below ++ rest, rfl⟩, ?_⟩
      by_cases hhere : below = []
      · subst hhere
        exact .inl ⟨rfl, rfl⟩
      · refine .inr ⟨below, rfl, (ih (hwithin.below segment)).2 ⟨hhere, ?_, ?_⟩⟩
        · exact ⟨⟨below ++ rest, facade⟩, mem_routesBelow.2 hr, List.prefix_append below rest⟩
        · exact (facadeAt_below routes segment below).symm

theorem pathsOf_modulesAt (depth : Nat) (routes : List Route) :
    pathsOf (modulesAt (depth + 1) routes) = (nextSegments routes).flatMap fun segment =>
      ([] :: pathsOf (modulesAt depth (routesBelow routes segment))).map (segment :: ·) := by
  rw [modulesAt_eq, pathsOf, placedAll_eq, List.flatMap_map, List.map_flatMap]
  simp only [Module.placed, pathsOf, List.map_cons, List.map_map]
  rfl

/-- No module stands twice. -/
theorem nodup_pathsOf {depth : Nat} {routes : List Route} (hwithin : Within depth routes) :
    (pathsOf (modulesAt depth routes)).Nodup := by
  induction depth generalizing routes with
  | zero => simp [modulesAt, placedAll, pathsOf]
  | succ depth ih =>
    rw [pathsOf_modulesAt, List.nodup_flatMap]
    constructor
    · intro segment _
      refine List.Nodup.map (List.cons_injective) ?_
      rw [List.nodup_cons]
      refine ⟨?_, ih (hwithin.below segment)⟩
      rw [pathsOf, List.mem_map]
      rintro ⟨⟨_, held⟩, hmem, rfl⟩
      exact ((mem_placed_modulesAt (hwithin.below segment)).1 hmem).1 rfl
    · refine (nextSegments_ascending routes).imp fun {s t} hlt => ?_
      intro path hs ht
      obtain ⟨below, -, rfl⟩ := List.mem_map.1 hs
      obtain ⟨other, -, heq⟩ := List.mem_map.1 ht
      exact absurd (List.cons.inj heq).1.symm (ne_of_lt hlt)

theorem siblingsAscend_modulesAt (depth : Nat) (routes : List Route) :
    SiblingsAscend (modulesAt depth routes) := by
  cases depth with
  | zero => exact List.Pairwise.nil
  | succ depth =>
    rw [SiblingsAscend, modulesAt_eq, List.pairwise_map]
    exact (nextSegments_ascending routes).imp Text.bytes_lt_iff.2

theorem ascending_modulesAt (depth : Nat) (routes : List Route) :
    ∀ m ∈ modulesAt depth routes, m.Ascending := by
  induction depth generalizing routes with
  | zero => simp [modulesAt]
  | succ depth ih =>
    rw [modulesAt_eq, List.forall_mem_map]
    intro segment _
    exact .mk (siblingsAscend_modulesAt depth _) (ih _)

/-! ## The order of the routes -/

theorem nextSegments_perm {routes others : List Route} (hperm : routes.Perm others) :
    nextSegments routes = nextSegments others := by
  refine (nextSegments_ascending routes).eq_of_mem_iff (nextSegments_ascending others) ?_
  intro segment
  simp only [mem_nextSegments, hperm.mem_iff]

/-- Where no two routes end in one module, it does not matter which is the last. -/
theorem facadeAt_eq_some_iff {routes : List Route}
    (hdistinct : routes.Pairwise fun r s => r.path ≠ s.path) {path : List String} {f : Facade} :
    facadeAt routes path = some f ↔ ⟨path, f⟩ ∈ routes := by
  have hmem : (⟨path, f⟩ : Route) ∈ routes ↔
      (⟨path, f⟩ : Route) ∈ routes.filter fun r => r.path = path := by
    simp
  have hpath : ∀ r ∈ routes.filter fun r => r.path = path, r.path = path := by simp
  have hpairs := hdistinct.filter fun r => decide (r.path = path)
  rw [hmem, facadeAt]
  generalize routes.filter (fun r => r.path = path) = ends at hpath hpairs
  match ends with
  | [] => simp
  | [⟨way, facade⟩] =>
    have hway : way = path := hpath _ List.mem_cons_self
    simp [hway, eq_comm]
  | r :: s :: rest =>
    have hne := (List.pairwise_cons.1 hpairs).1 s List.mem_cons_self
    rw [hpath r (by simp), hpath s (by simp)] at hne
    exact absurd rfl hne

theorem distinct_below {routes : List Route}
    (hdistinct : routes.Pairwise fun r s => r.path ≠ s.path) (segment : String) :
    (routesBelow routes segment).Pairwise fun r s => r.path ≠ s.path := by
  rw [routesBelow, List.pairwise_map]
  refine (hdistinct.filter _).imp_of_mem fun {r s} hr hs hne hbelow => hne ?_
  rw [head?_eq_iff.1 (of_decide_eq_true (List.mem_filter.1 hr).2),
    head?_eq_iff.1 (of_decide_eq_true (List.mem_filter.1 hs).2), hbelow]

theorem modulesAt_perm (depth : Nat) {routes others : List Route} (hperm : routes.Perm others)
    (hdistinct : routes.Pairwise fun r s => r.path ≠ s.path) :
    modulesAt depth routes = modulesAt depth others := by
  induction depth generalizing routes others with
  | zero => rfl
  | succ depth ih =>
    have hothers := hdistinct.perm hperm fun h => Ne.symm h
    have hfacade (segment : String) : facadeAt routes [segment] = facadeAt others [segment] := by
      refine Option.ext fun f => ?_
      rw [facadeAt_eq_some_iff hdistinct, facadeAt_eq_some_iff hothers, hperm.mem_iff]
    have hbelow (segment : String) : modulesAt depth (routesBelow routes segment) =
        modulesAt depth (routesBelow others segment) :=
      ih ((hperm.filter _).map _) (distinct_below hdistinct segment)
    simp only [modulesAt_eq, nextSegments_perm hperm, hfacade, hbelow]

/-! ## Facades put in one after the other -/

/-- The module with this segment changed. If there is none yet, an empty one is put in its place
first. -/
def changeAt (segment : String) (change : Module → Module) : List Module → List Module
  | [] => [change (.mk segment none [])]
  | m :: rest =>
    if segment = m.segment then change m :: rest
    else if segment < m.segment then change (.mk segment none []) :: m :: rest
    else m :: changeAt segment change rest

/-- The facade put in where a path ends, all modules on the way made where they are missing. -/
def Module.settle (f : Facade) : List String → Module → Module
  | [], .mk segment _ children => .mk segment (some f) children
  | next :: rest, .mk segment facade children =>
    .mk segment facade (changeAt next (Module.settle f rest) children)

/-- One segment more among ascending ones. -/
def withSegment (segment : String) : List String → List String
  | [] => [segment]
  | s :: rest =>
    if segment = s then s :: rest
    else if segment < s then segment :: s :: rest
    else s :: withSegment segment rest

theorem mem_withSegment {segment s : String} {segments : List String} :
    s ∈ withSegment segment segments ↔ s = segment ∨ s ∈ segments := by
  induction segments with
  | nil => simp [withSegment]
  | cons t rest ih =>
    rw [withSegment]
    split_ifs with heq hlt
    · simp [heq]
    · simp
    · rw [List.mem_cons, List.mem_cons, ih]
      tauto

theorem withSegment_ascending (segment : String) {segments : List String}
    (h : segments.Pairwise (· < ·)) : (withSegment segment segments).Pairwise (· < ·) := by
  induction segments with
  | nil => exact List.pairwise_singleton _ segment
  | cons t rest ih =>
    obtain ⟨ht, hrest⟩ := List.pairwise_cons.1 h
    rw [withSegment]
    split_ifs with heq hlt
    · exact h
    · refine List.pairwise_cons.2 ⟨fun s hs => ?_, h⟩
      rcases List.mem_cons.1 hs with rfl | hs
      · exact hlt
      · exact hlt.trans (ht s hs)
    · refine List.pairwise_cons.2 ⟨fun s hs => ?_, ih hrest⟩
      rcases mem_withSegment.1 hs with rfl | hs
      · exact lt_of_le_of_ne (not_lt.1 hlt) (Ne.symm heq)
      · exact ht s hs

/-- Modules that are told by their segments, one of which is changed or put in. -/
theorem changeAt_map {node : String → Module} (hnode : ∀ s, (node s).segment = s)
    (change : Module → Module) {segment : String} {segments : List String}
    (hascending : segments.Pairwise (· < ·))
    (hnew : segment ∉ segments → node segment = .mk segment none []) :
    changeAt segment change (segments.map node) = (withSegment segment segments).map fun s =>
      if s = segment then change (node s) else node s := by
  have hothers : ∀ rest : List String, segment ∉ rest →
      (rest.map fun s => if s = segment then change (node s) else node s) = rest.map node :=
    fun rest hrest => List.map_congr_left fun s hs => if_neg (ne_of_mem_of_not_mem hs hrest)
  induction segments with
  | nil => simp [changeAt, withSegment, hnew]
  | cons t rest ih =>
    obtain ⟨ht, hrest⟩ := List.pairwise_cons.1 hascending
    rw [List.map_cons, changeAt, hnode, withSegment]
    split_ifs with heq hlt
    · subst heq
      rw [List.map_cons, if_pos rfl, hothers rest fun hin => lt_irrefl _ (ht _ hin)]
    · have habsent : segment ∉ t :: rest := by
        rw [List.mem_cons, not_or]
        exact ⟨heq, fun hin => lt_asymm hlt (ht _ hin)⟩
      rw [List.map_cons, if_pos rfl, hothers _ habsent, hnew habsent, List.map_cons]
    · rw [List.map_cons, if_neg (Ne.symm heq), ih hrest fun hin => hnew ?_]
      rw [List.mem_cons, not_or]
      exact ⟨heq, hin⟩

/-- The module that all routes lead through. -/
def trunk (depth : Nat) (segment : String) (routes : List Route) : Module :=
  .mk segment (facadeAt routes []) (modulesAt depth routes)

theorem modulesAt_eq_trunks (depth : Nat) (routes : List Route) :
    modulesAt (depth + 1) routes = (nextSegments routes).map fun segment =>
      trunk depth segment (routesBelow routes segment) := by
  simp only [modulesAt_eq, trunk, facadeAt_below]

theorem modulesAt_nil (depth : Nat) : modulesAt depth [] = [] := by
  cases depth with
  | zero => rfl
  | succ depth => rw [modulesAt_eq]; rfl

theorem facadeAt_concat (routes : List Route) (r : Route) (path : List String) :
    facadeAt (routes ++ [r]) path = if r.path = path then some r.facade else facadeAt routes path := by
  unfold facadeAt
  rw [List.filter_append]
  split
  · next h => simp [h]
  · next h => simp [h]

theorem routesBelow_concat (routes : List Route) (r : Route) (segment : String) :
    routesBelow (routes ++ [r]) segment =
      if r.path.head? = some segment then routesBelow routes segment ++ [r.descend]
      else routesBelow routes segment := by
  unfold routesBelow
  rw [List.filter_append, List.map_append]
  split
  · next h => simp [h]
  · next h => simp [h]

theorem nextSegments_concat_end (routes : List Route) (f : Facade) :
    nextSegments (routes ++ [⟨[], f⟩]) = nextSegments routes := by
  refine (nextSegments_ascending _).eq_of_mem_iff (nextSegments_ascending _) fun segment => ?_
  simp [mem_nextSegments]

theorem nextSegments_concat (routes : List Route) (segment : String) (rest : List String)
    (f : Facade) :
    nextSegments (routes ++ [⟨segment :: rest, f⟩]) =
      withSegment segment (nextSegments routes) := by
  refine (nextSegments_ascending _).eq_of_mem_iff
    (withSegment_ascending segment (nextSegments_ascending routes)) fun s => ?_
  rw [mem_withSegment, mem_nextSegments, mem_nextSegments]
  constructor
  · rintro ⟨r, hr, way, hpath⟩
    rcases List.mem_append.1 hr with hr | hr
    · exact .inr ⟨r, hr, way, hpath⟩
    · rw [List.mem_singleton.1 hr] at hpath
      exact .inl (List.cons.inj hpath).1.symm
  · rintro (rfl | ⟨r, hr, way, hpath⟩)
    · exact ⟨_, List.mem_append_right _ List.mem_cons_self, rest, rfl⟩
    · exact ⟨r, List.mem_append_left _ hr, way, hpath⟩

/-- One more route changes the modules along its path and no other. -/
theorem settle_trunk {depth : Nat} {path : List String} (hwithin : path.length ≤ depth)
    (f : Facade) (segment : String) (routes : List Route) :
    (trunk depth segment routes).settle f path = trunk depth segment (routes ++ [⟨path, f⟩]) := by
  induction path generalizing depth segment routes with
  | nil =>
    have hmodules : modulesAt depth (routes ++ [⟨[], f⟩]) = modulesAt depth routes := by
      cases depth with
      | zero => rfl
      | succ depth =>
        simp [modulesAt_eq, nextSegments_concat_end, facadeAt_concat, routesBelow_concat]
    simp [trunk, Module.settle, facadeAt_concat, hmodules]
  | cons next rest ih =>
    obtain ⟨depth, rfl⟩ : ∃ n, depth = n + 1 := ⟨depth - 1, by simp at hwithin; omega⟩
    have hnew : next ∉ nextSegments routes →
        trunk depth next (routesBelow routes next) = .mk next none [] := by
      intro habsent
      have hnone : routesBelow routes next = [] := by
        rw [List.eq_nil_iff_forall_not_mem]
        intro r hr
        exact habsent (mem_nextSegments.2 ⟨_, mem_routesBelow.1 hr, r.path, rfl⟩)
      rw [hnone, trunk, modulesAt_nil]
      rfl
    have hbelow (s : String) :
        trunk depth s (routesBelow (routes ++ [⟨next :: rest, f⟩]) s) =
          if s = next then (trunk depth s (routesBelow routes s)).settle f rest
          else trunk depth s (routesBelow routes s) := by
      rw [routesBelow_concat]
      by_cases hs : s = next
      · subst hs
        rw [if_pos rfl, ih (Nat.le_of_succ_le_succ hwithin)]
        simp [Route.descend]
      · rw [if_neg (by simpa using Ne.symm hs), if_neg hs]
    have hnodes := changeAt_map (fun s : String => (rfl : (trunk depth s (routesBelow routes s)).segment = s))
      (Module.settle f rest) (nextSegments_ascending routes) hnew
    rw [trunk, Module.settle, modulesAt_eq_trunks, hnodes, trunk, modulesAt_eq_trunks,
      nextSegments_concat, facadeAt_concat, if_neg (List.cons_ne_nil next rest)]
    simp only [hbelow]

/-! ## Whole forests -/

/-- The facades put in one after the other, below a module that stands for all of them. -/
def settleAll (fs : List Facade) : Module :=
  fs.foldl (fun root f => root.settle f (Text.segments f.scope)) (.mk "" none [])

/-- How far down a forest goes. -/
def depthOf (fs : List Facade) : Nat :=
  ((fs.map Route.ofFacade).map fun r => r.path.length).foldl max 0

theorem le_foldl_max (l : List Nat) (start : Nat) :
    start ≤ l.foldl max start ∧ ∀ n ∈ l, n ≤ l.foldl max start := by
  induction l generalizing start with
  | nil => exact ⟨Nat.le_refl start, by simp⟩
  | cons m l ih =>
    obtain ⟨hstart, hrest⟩ := ih (max start m)
    refine ⟨(Nat.le_max_left start m).trans hstart, fun n hn => ?_⟩
    rcases List.mem_cons.1 hn with rfl | hn
    · exact (Nat.le_max_right start n).trans hstart
    · exact hrest n hn

theorem within_depthOf (fs : List Facade) : Within (depthOf fs) (fs.map Route.ofFacade) :=
  fun _ hr => (le_foldl_max _ 0).2 _ (List.mem_map_of_mem hr)

/-- The forest is what is left of putting in facade after facade, each in place. -/
theorem forest_eq_settleAll (fs : List Facade) : forest fs = (settleAll fs).children := by
  have hfold : ∀ (gs : List Facade) (routes : List Route),
      Within (depthOf fs) (gs.map Route.ofFacade) →
        gs.foldl (fun root f => root.settle f (Text.segments f.scope))
          (trunk (depthOf fs) "" routes) =
            trunk (depthOf fs) "" (routes ++ gs.map Route.ofFacade) := by
    intro gs
    induction gs with
    | nil => simp
    | cons g gs ih =>
      intro routes hwithin
      obtain ⟨hg, hgs⟩ := List.forall_mem_cons.1 hwithin
      have hstep : (trunk (depthOf fs) "" routes).settle g (Text.segments g.scope) =
          trunk (depthOf fs) "" (routes ++ [Route.ofFacade g]) := settle_trunk hg g "" routes
      rw [List.foldl_cons, hstep, ih _ hgs]
      simp [Route.ofFacade]
  have hall := hfold fs [] (within_depthOf fs)
  rw [trunk, modulesAt_nil] at hall
  rw [settleAll]
  exact (congrArg Module.children hall).symm

/-- The modules are those that the namespaces of the facades ask for. -/
structure Arranged (fs : List Facade) (modules : List Module) : Prop where
  /-- No module stands twice. -/
  once : (pathsOf modules).Nodup
  /-- There is one for every non-empty beginning of a namespace, and no other. -/
  paths : ∀ path, path ∈ pathsOf modules ↔
    path ≠ [] ∧ ∃ f ∈ fs, path <+: Text.segments f.scope
  /-- At the top and inside every module, siblings ascend. -/
  siblings : SiblingsAscend modules
  inside : ∀ m ∈ modules, m.Ascending
  /-- A module holds a facade exactly if its path is the facade's namespace. -/
  facades : ∀ path held, (path, held) ∈ placedAll modules →
    ∀ f, held = some f ↔ f ∈ fs ∧ Text.segments f.scope = path

theorem distinct_ofFacade {fs : List Facade} (hdistinct : (fs.map (·.scope)).Nodup) :
    (fs.map Route.ofFacade).Pairwise fun r s => r.path ≠ s.path := by
  rw [List.Nodup, List.pairwise_map] at hdistinct
  rw [List.pairwise_map]
  exact hdistinct.imp fun hne hpath => hne (Text.segments_injective hpath)

theorem arranged_forest {fs : List Facade} (hdistinct : (fs.map (·.scope)).Nodup) :
    Arranged fs (forest fs) where
  once := nodup_pathsOf (within_depthOf fs)
  paths := by
    intro path
    rw [pathsOf, List.mem_map]
    constructor
    · rintro ⟨⟨_, held⟩, hmem, rfl⟩
      obtain ⟨hne, ⟨r, hr, hbegins⟩, -⟩ := (mem_placed_modulesAt (within_depthOf fs)).1 hmem
      obtain ⟨f, hf, rfl⟩ := List.mem_map.1 hr
      exact ⟨hne, f, hf, hbegins⟩
    · rintro ⟨hne, f, hf, hbegins⟩
      exact ⟨(path, _), (mem_placed_modulesAt (within_depthOf fs)).2
        ⟨hne, ⟨_, List.mem_map_of_mem hf, hbegins⟩, rfl⟩, rfl⟩
  siblings := siblingsAscend_modulesAt _ _
  inside := ascending_modulesAt _ _
  facades := by
    intro path held hmem f
    rw [((mem_placed_modulesAt (within_depthOf fs)).1 hmem).2.2,
      facadeAt_eq_some_iff (distinct_ofFacade hdistinct), List.mem_map]
    constructor
    · rintro ⟨g, hg, heq⟩
      obtain ⟨hpath, rfl⟩ := Route.mk.inj heq
      exact ⟨hg, hpath⟩
    · rintro ⟨hf, rfl⟩
      exact ⟨f, hf, rfl⟩

theorem forest_perm {fs gs : List Facade} (hdistinct : (fs.map (·.scope)).Nodup)
    (hperm : fs.Perm gs) : forest fs = forest gs := by
  have hroutes := hperm.map Route.ofFacade
  have hdepth : depthOf fs = depthOf gs := by
    unfold depthOf
    exact @List.Perm.foldl_op_eq _ max _ _ _ _ 0 (hroutes.map fun r => r.path.length)
  calc modulesAt (depthOf fs) (fs.map Route.ofFacade)
    _ = modulesAt (depthOf fs) (gs.map Route.ofFacade) :=
      modulesAt_perm (depthOf fs) hroutes (distinct_ofFacade hdistinct)
    _ = modulesAt (depthOf gs) (gs.map Route.ofFacade) := by rw [hdepth]

/-- **The modules follow the namespaces.** Facades with different namespaces, in whatever order and
with namespaces that begin one another, give one module for every non-empty beginning of a
namespace, ascending side by side, and a module holds a facade exactly if its path is the facade's
namespace. What is emitted is the same for every order of the facades, also where the library that
tokens are built with stops it. -/
theorem forest_arranged {fs : List Facade} (hdistinct : (fs.map (·.scope)).Nodup) :
    Arranged fs (forest fs) ∧ ∀ gs, fs.Perm gs →
      forest gs = forest fs ∧
      (∀ crateName, Backend.rust.emit crateName gs = Backend.rust.emit crateName fs) ∧
      ∀ (lib : TokenLibrary) crateName,
        lib.emit .rust crateName gs = lib.emit .rust crateName fs := by
  refine ⟨arranged_forest hdistinct, fun gs hperm => ?_⟩
  have hforest := (forest_perm hdistinct hperm).symm
  refine ⟨hforest, fun crateName => ?_, fun lib crateName => ?_⟩
  · rw [Backend.emit, Backend.emit, Backend.emitRust, Backend.emitRust, source, source, hforest]
  · rw [TokenLibrary.emit, TokenLibrary.emit, TokenLibrary.buildSource, TokenLibrary.buildSource,
      hforest]

/-- The deepest namespace comes first, one in between is nobody's, and one is found late. -/
def nestedFacades : List Facade :=
  ["b::c::d", "a_b", "b", "a::e", "a"].map fun scope => ⟨scope, []⟩

theorem nestedFacades_arranged :
    (nestedFacades.map (·.scope)).Nodup ∧ Arranged nestedFacades (forest nestedFacades) ∧
      pathsOf (forest nestedFacades) =
        [["a"], ["a", "e"], ["a_b"], ["b"], ["b", "c"], ["b", "c", "d"]] ∧
      forest nestedFacades.reverse = forest nestedFacades := by
  have hdistinct : (nestedFacades.map (·.scope)).Nodup := by decide +kernel
  refine ⟨hdistinct, (forest_arranged hdistinct).1, by decide +kernel, ?_⟩
  exact ((forest_arranged hdistinct).2 _ nestedFacades.reverse_perm.symm).1

end MetricFacade.Rust
