import MetricFacade.Proofs.Command.Footprint
import MetricFacade.Proofs.Command.Listing
import MetricFacade.Proofs.Partition

/-!
# Three drivers, one manifest

Generating, validating and building each load the manifest, settle the policy and the crate
and compile for themselves. What each of them comes to is told by the same two steps, so a
manifest that passes in one of them passes in the others: they differ only in what they do with
the facades.

Results:

* `prevails_chooseCrate`, `prevails_choosePolicy`: what was asked for, then what the manifest says,
  then what is usual.
* `Compiles`, `generate_ok_iff`, `validate_ok_iff`, `build_ok_iff`: when each of them succeeds.
* `summary_facades`: what validating counts.
* `Rejected`, `generate_rejected`, `validate_rejected`, `build_rejected`: what each of them says of
  declarations that do not compile.
* `drivers_agree`: all of it side by side.
-/
namespace MetricFacade

open Files Command

/-! ## Settling the policy and the crate -/

/-- What was asked for stands before what the manifest says, and that before what is usual. -/
inductive Prevails {α : Type} (usual : α) : Option α → Option α → α → Prop where
  | asked (a : α) (own : Option α) : Prevails usual (some a) own a
  | own (a : α) : Prevails usual none (some a) a
  | usual : Prevails usual none none usual

theorem Prevails.unique {α : Type} {usual a b : α} {asked own : Option α}
    (ha : Prevails usual asked own a) (hb : Prevails usual asked own b) : a = b := by
  cases ha <;> cases hb <;> rfl

theorem prevails_chooseCrate (asked : Option String) (m : Manifest) :
    Prevails Rust.defaultCrate asked m.options.runtimeCrate (chooseCrate asked m) := by
  rw [chooseCrate]
  cases asked with
  | some name => exact .asked name _
  | none =>
    cases m.options.runtimeCrate with
    | some name => exact .own name
    | none => exact .usual

/-- A manifest that says nothing is strict. -/
theorem prevails_choosePolicy (asked : Option BucketPolicy) (m : Manifest) :
    Prevails .strict asked (some m.options.bucketPolicy) (choosePolicy asked m) := by
  cases asked with
  | some policy => exact .asked policy _
  | none => exact .own _

/-! ## One driver at a time -/

/-- The manifest at the path loads, and compiles under the policy asked for. -/
def Compiles (files : Files) (path : String) (policy : Option BucketPolicy) (m : Manifest)
    (facades : List Facade) : Prop :=
  Manifest.loadFile files path = .ok m ∧
    compile (choosePolicy policy m) m.declarations = .ok facades

theorem Compiles.unique {files : Files} {path : String} {policy : Option BucketPolicy}
    {m n : Manifest} {fs gs : List Facade} (h : Compiles files path policy m fs)
    (h' : Compiles files path policy n gs) : m = n ∧ fs = gs := by
  obtain rfl := Except.ok.inj (h.1.symm.trans h'.1)
  exact ⟨rfl, Except.ok.inj (h.2.symm.trans h'.2)⟩

namespace Command

variable {lookup : WorkspaceLookup} {files : Files} {o : Origin} {path : String}
  {policy : Option BucketPolicy} {crateName : Option String} {colored : Bool} {m : Manifest}

theorem load_of_path (h : o.path lookup files = .ok path) :
    ∃ log, o.load lookup files = ((Manifest.loadFile files path).map fun m => (path, m), log) := by
  unfold Origin.load
  rw [h]
  exact ⟨_, rfl⟩

theorem load_of_failure {f : Failure} (h : o.path lookup files = .error f) :
    o.load lookup files = (.error f, []) := by
  unfold Origin.load
  rw [h]

/-- The text goes where it was asked to go. -/
theorem deliver_ok_iff {output : Option String} {count : Nat} {text : String}
    {log : List Log.Record} : (deliver files output count text log).result = .ok () ↔
      ∀ p, output = some p → ∃ after, files.write p text = .ok after := by
  unfold deliver
  cases output with
  | none => simp
  | some p =>
    dsimp only
    cases hw : files.write p text with
    | error fault => simp [hw]
    | ok after => simp [hw]

theorem generate_ok_iff (hpath : o.path lookup files = .ok path) {backend : Backend}
    {output : Option String} :
    (Generate.run lookup colored files ⟨o, backend, output, crateName, policy⟩).result = .ok () ↔
      ∃ m facades text, Compiles files path policy m facades ∧
        backend.emit (chooseCrate crateName m) facades = .ok text ∧
        ∀ p, output = some p → ∃ after, files.write p text = .ok after := by
  obtain ⟨log, hload⟩ := load_of_path hpath
  unfold Generate.run Compiles
  rw [hload]
  cases hm : Manifest.loadFile files path with
  | error f => simp [Except.map]
  | ok m =>
    dsimp only [Except.map]
    cases hc : compile (choosePolicy policy m) m.declarations with
    | error vs => simp [hc]
    | ok facades =>
      dsimp only
      cases he : backend.emit (chooseCrate crateName m) facades with
      | error f => simp [hc, he]
      | ok text => simp [hc, he, deliver_ok_iff]

theorem generate_rust_ok_iff (hpath : o.path lookup files = .ok path) :
    (Generate.run lookup colored files ⟨o, .rust, none, crateName, policy⟩).result = .ok () ↔
      ∃ m facades text, Compiles files path policy m facades ∧
        Backend.emitRust (chooseCrate crateName m) facades = .ok text := by
  rw [generate_ok_iff hpath]
  simp [Backend.emit]

/-- Text that is not written to a file is printed. -/
theorem generate_out (hpath : o.path lookup files = .ok path) {backend : Backend} {text : String}
    {facades : List Facade} (hc : Compiles files path policy m facades)
    (he : backend.emit (chooseCrate crateName m) facades = .ok text) :
    (Generate.run lookup colored files ⟨o, backend, none, crateName, policy⟩).out = text := by
  obtain ⟨log, hload⟩ := load_of_path hpath
  unfold Generate.run
  rw [hload, hc.1]
  dsimp only [Except.map]
  rw [hc.2]
  dsimp only
  rw [he]
  rfl

/-- Once it is known what the manifest compiles to, generating is a matter of the backend. -/
theorem generate_of_compiles (hpath : o.path lookup files = .ok path) {backend : Backend}
    {facades : List Facade} (hc : Compiles files path policy m facades) :
    (Generate.run lookup colored files ⟨o, backend, none, crateName, policy⟩).result = .ok () ↔
      ∃ text, backend.emit (chooseCrate crateName m) facades = .ok text := by
  rw [generate_ok_iff hpath]
  constructor
  · rintro ⟨m', facades', text, hc', he, -⟩
    obtain ⟨rfl, rfl⟩ := hc.unique hc'
    exact ⟨text, he⟩
  · rintro ⟨text, he⟩
    exact ⟨m, facades, text, hc, he, nofun⟩

/-- Source text can be generated if the crate can be named. -/
theorem generate_rust_of_compiles (hpath : o.path lookup files = .ok path) {facades : List Facade}
    (hc : Compiles files path policy m facades) :
    let g := Generate.run lookup colored files ⟨o, .rust, none, crateName, policy⟩
    (g.result = .ok () ↔ Rust.isCrateName (chooseCrate crateName m)) ∧
      (Rust.isCrateName (chooseCrate crateName m) →
        g.out = Rust.source (chooseCrate crateName m) facades) := by
  have hemit : Rust.isCrateName (chooseCrate crateName m) →
      Backend.rust.emit (chooseCrate crateName m) facades =
        .ok (Rust.source (chooseCrate crateName m) facades) := fun h => if_pos h
  refine ⟨(generate_of_compiles hpath hc).trans ?_, fun h => generate_out hpath hc (hemit h)⟩
  constructor
  · rintro ⟨text, he⟩
    by_contra hbad
    rw [Backend.emit, Backend.emitRust, if_neg hbad] at he
    cases he
  · exact fun h => ⟨_, hemit h⟩

/-- What validating prints of a manifest that passes. -/
def tick (colored : Bool) : String :=
  if colored then bold (green "✔") ++ " " else ""

theorem validate_of_compiles (hpath : o.path lookup files = .ok path) {facades : List Facade}
    (hc : Compiles files path policy m facades) :
    (Validate.run lookup colored files ⟨o, policy⟩).result = .ok () ∧
      (Validate.run lookup colored files ⟨o, policy⟩).out =
        tick colored ++ summary path facades ++ "\n" := by
  obtain ⟨log, hload⟩ := load_of_path hpath
  unfold Validate.run
  rw [hload, hc.1]
  dsimp only [Except.map]
  rw [hc.2]
  exact ⟨rfl, rfl⟩

theorem validate_ok_iff (hpath : o.path lookup files = .ok path) :
    (Validate.run lookup colored files ⟨o, policy⟩).result = .ok () ↔
      ∃ m facades, Compiles files path policy m facades := by
  refine ⟨fun h => ?_, fun ⟨m, facades, hc⟩ => (validate_of_compiles hpath hc).1⟩
  obtain ⟨log, hload⟩ := load_of_path hpath
  unfold Validate.run at h
  rw [hload] at h
  cases hm : Manifest.loadFile files path with
  | error f => rw [hm] at h; cases h
  | ok m =>
    rw [hm] at h
    dsimp only [Except.map] at h
    cases hc : compile (choosePolicy policy m) m.declarations with
    | error vs => rw [hc] at h; cases h
    | ok facades => exact ⟨m, facades, hm, hc⟩

/-- Whatever passes can be described, and what can be described passes. -/
theorem validate_iff_describe {output : Option String}
    (hw : ∀ p, output = some p → ∃ after, files.write p "" = .ok after) :
    (Validate.run lookup colored files ⟨o, policy⟩).result = .ok () ↔
      (Generate.run lookup colored files ⟨o, .json, output, crateName, policy⟩).result = .ok () := by
  cases hpath : o.path lookup files with
  | error f =>
    have hload := load_of_failure hpath
    simp only [Validate.run, Generate.run, hload]
  | ok path =>
    rw [validate_ok_iff hpath, generate_ok_iff hpath]
    constructor
    · rintro ⟨m, facades, hc⟩
      exact ⟨m, facades, _, hc, rfl, fun p hp => (hw p hp).elim fun after ha => write_any ha _⟩
    · rintro ⟨m, facades, -, hc, -⟩
      exact ⟨m, facades, hc⟩

/-- Every entry is counted once, and every namespace that has one. -/
theorem summary_facades (path : String) (m : Manifest) :
    summary path (facades m.declarations) =
      path ++ ": " ++ toString m.metrics.length ++ " metrics in "
        ++ toString (m.metrics.map (·.scope)).eraseDups.length ++ " namespaces" := by
  have hmetrics : ((facades m.declarations).flatMap (·.metrics)).length = m.metrics.length := by
    rw [facades_whole.length_eq, List.length_map, Manifest.declarations, List.length_map]
  have hscopes : (facades m.declarations).length =
      (m.metrics.map (·.scope)).eraseDups.length := by
    rw [facades, List.length_map, groupBy, List.length_map, distinctKeys,
      (sortBy_perm _).length_eq, Manifest.declarations, List.map_map, List.map_map]
    rfl
  rw [summary, hmetrics, hscopes]

theorem validate_out (hpath : o.path lookup files = .ok path)
    (h : (Validate.run lookup colored files ⟨o, policy⟩).result = .ok ()) :
    ∃ m, Manifest.loadFile files path = .ok m ∧
      (Validate.run lookup colored files ⟨o, policy⟩).out =
        tick colored ++ path ++ ": " ++ toString m.metrics.length
          ++ " metrics in " ++ toString (m.metrics.map (·.scope)).eraseDups.length
          ++ " namespaces\n" := by
  obtain ⟨m, fs, hc⟩ := (validate_ok_iff hpath).1 h
  refine ⟨m, hc.1, ?_⟩
  rw [(validate_of_compiles hpath hc).2, (compile_eq_ok_iff.1 hc.2).2, summary_facades]
  simp only [String.append_assoc]
  rfl

/-- The task fails with a listing of the violations as its diagnostics, and asks for status 1. -/
structure Rejected (colored : Bool) (vs : List Violation) (o : Outcome) : Prop where
  failed : ∃ f, o.result = .error f
  out : o.out = ""
  err : o.err = violationReport colored vs
  listed : Lists colored vs o.err
  status : o.status = some 1

theorem Rejected.of_report {vs : List Violation} {o : Outcome} {f : Failure}
    (hresult : o.result = .error f) (hout : o.out = "") (herr : o.err = violationReport colored vs)
    (hstatus : o.status = some 1) : Rejected colored vs o where
  failed := ⟨f, hresult⟩
  out := hout
  err := herr
  listed := herr ▸ lists_violationReport colored vs
  status := hstatus

theorem validate_rejected (hpath : o.path lookup files = .ok path) {vs : List Violation}
    (hm : Manifest.loadFile files path = .ok m)
    (hc : compile (choosePolicy policy m) m.declarations = .error vs) :
    Rejected colored vs (Validate.run lookup colored files ⟨o, policy⟩) := by
  obtain ⟨log, hload⟩ := load_of_path hpath
  unfold Validate.run
  rw [hload, hm]
  dsimp only [Except.map]
  rw [hc]
  exact .of_report rfl rfl rfl rfl

theorem generate_rejected (hpath : o.path lookup files = .ok path) {vs : List Violation}
    (hm : Manifest.loadFile files path = .ok m)
    (hc : compile (choosePolicy policy m) m.declarations = .error vs) (backend : Backend)
    (output : Option String) :
    Rejected colored vs
      (Generate.run lookup colored files ⟨o, backend, output, crateName, policy⟩) := by
  obtain ⟨log, hload⟩ := load_of_path hpath
  unfold Generate.run
  rw [hload, hm]
  dsimp only [Except.map]
  rw [hc]
  exact .of_report rfl rfl rfl rfl

end Command

namespace Build

variable {outDir : Option String} {files after : Files} {b : Build} {path text : String}

/-! ## Building -/

theorem product_eq_ok {m : Manifest} {facades : List Facade} {p : Product} :
    b.product outDir m facades = .ok p ↔
      Backend.emitRust (chooseCrate b.crateName m) facades = .ok p.text ∧
        b.outputPath outDir = .ok p.path ∧ p.count = facades.length := by
  obtain ⟨text, count, path⟩ := p
  unfold product
  cases he : Backend.emitRust (chooseCrate b.crateName m) facades with
  | error f => simp [bind, Except.bind]
  | ok text' =>
    cases ho : b.outputPath outDir with
    | error f => simp [bind, Except.bind]
    | ok path' => simp [bind, Except.bind, pure, Except.pure, eq_comm, and_comm]

theorem read_place (h : place files path text = (after, .ok ())) : after.read path = .ok text := by
  obtain ⟨mid, f, -, hplace⟩ | ⟨mid, after', -, hw, hplace⟩ := place_cases files path text
  · rw [h] at hplace
    cases hplace
  · rw [h] at hplace
    cases hplace
    exact read_write hw

/-- Whether a text can be placed has nothing to do with the text. -/
theorem place_any (h : place files path text = (after, .ok ())) (other : String) :
    ∃ after', place files path other = (after', .ok ()) := by
  rcases hp : prepare files path with ⟨mid, fault | ⟨⟩⟩
  · rw [place_of_fault hp text] at h
    cases h
  · rw [place_of_prepared hp text] at h
    cases hw : mid.write path text with
    | error fault => rw [hw] at h; cases h
    | ok after' =>
      obtain ⟨after'', hw'⟩ := write_any hw other
      exact ⟨after'', by rw [place_of_prepared hp other, hw']⟩

/-- The file of the build is known and can be written. -/
def Writable (b : Build) (outDir : Option String) (files : Files) (path : String) : Prop :=
  b.outputPath outDir = .ok path ∧ ∃ after, place files path "" = (after, .ok ())

/-- A build with a file that can be written succeeds when its text is there to write, and the
file then holds the text. -/
theorem build_ok_iff (hw : b.Writable outDir files path) :
    ((∃ p, (b.run outDir files).result = .ok p) ↔
      ∃ m facades text, Compiles files b.manifest b.policy m facades ∧
        Backend.emitRust (chooseCrate b.crateName m) facades = .ok text) ∧
    ∀ m facades text, Compiles files b.manifest b.policy m facades →
      Backend.emitRust (chooseCrate b.crateName m) facades = .ok text →
      (b.run outDir files).result = .ok path ∧
        (b.run outDir files).files.read path = .ok text := by
  obtain ⟨hout, after, hplace⟩ := hw
  have hsucceeds : ∀ m facades text, Compiles files b.manifest b.policy m facades →
      Backend.emitRust (chooseCrate b.crateName m) facades = .ok text →
      (b.run outDir files).result = .ok path ∧
        (b.run outDir files).files.read path = .ok text := by
    intro m facades text hc he
    have hready : b.Ready outDir files ⟨text, facades.length, path⟩ :=
      ⟨m, facades, hc.1, hc.2, product_eq_ok.2 ⟨he, hout, rfl⟩⟩
    obtain ⟨hfiles, hresult⟩ := build_ready hready
    obtain ⟨after', hplace'⟩ := place_any hplace text
    rw [hfiles, hresult, hplace']
    exact ⟨rfl, read_place hplace'⟩
  refine ⟨⟨?_, ?_⟩, hsucceeds⟩
  · rintro ⟨p, hp⟩
    by_cases h : ∃ q, b.Ready outDir files q
    · obtain ⟨q, m, facades, hm, hc, hq⟩ := h
      exact ⟨m, facades, q.text, ⟨hm, hc⟩, (product_eq_ok.1 hq).1⟩
    · obtain ⟨⟨f, hf⟩, -⟩ := build_not_ready fun q hq => h ⟨q, hq⟩
      rw [hf] at hp
      cases hp
  · rintro ⟨m, facades, text, hc, he⟩
    exact ⟨path, (hsucceeds m facades text hc he).1⟩

theorem build_rejected {m : Manifest} {vs : List Violation}
    (hm : Manifest.loadFile files b.manifest = .ok m)
    (hc : compile (choosePolicy b.policy m) m.declarations = .error vs) :
    (b.run outDir files).result = .error ⟨.invalidListing b.manifest vs, []⟩ := by
  unfold run
  rw [hm]
  dsimp only
  rw [hc]

end Build

/-! ## Side by side -/

/-- Whatever does not compile has something wrong with it. -/
theorem ne_nil_of_compile {policy : BucketPolicy} {ds : List Metric.Declaration}
    {vs : List Violation} (h : compile policy ds = .error vs) : vs ≠ [] := by
  unfold compile at h
  split at h
  · cases h
  · next hne =>
    cases h
    exact hne

/-- **The three drivers agree.** Whatever the files hold and whatever the package manager says when
it is asked for a workspace, for one manifest and the same overrides of the policy and the crate:

* generating source text to standard output succeeds when a build with a file that can be
  written does, and prints what the build writes;
* validating succeeds when generating a description does, printed or written to a file that can
  be written;
* validating a manifest that passes counts its entries and its namespaces;
* all of them go by one policy and one crate: an override, or else what the manifest says, or else
  what is usual. What compiles under that policy passes, its description is printed, and so is its
  source text if that crate can be named;
* if the declarations do not compile under it, validating and generating fail, print the same listing
  of all violations as diagnostics and ask for status 1, and the build fails with the same
  violations. -/
theorem drivers_agree (lookup : WorkspaceLookup) (files : Files) (o : Origin)
    (policy : Option BucketPolicy) (crateName : Option String) (colored : Bool) :
    let validated := Validate.run lookup colored files ⟨o, policy⟩
    let generated := fun backend output =>
      Generate.run lookup colored files ⟨o, backend, output, crateName, policy⟩
    (∀ path output outDir p, o.path lookup files = .ok path →
      Build.Writable ⟨path, output, crateName, policy⟩ outDir files p →
      let built := Build.run outDir files ⟨path, output, crateName, policy⟩
      ((generated .rust none).result = .ok () ↔ ∃ p, built.result = .ok p) ∧
      ((generated .rust none).result = .ok () →
        built.result = .ok p ∧ built.files.read p = .ok (generated .rust none).out)) ∧
    (∀ output, (∀ p, output = some p → ∃ after, files.write p "" = .ok after) →
      (validated.result = .ok () ↔ (generated .json output).result = .ok ())) ∧
    (∀ path, o.path lookup files = .ok path → validated.result = .ok () →
      ∃ m, Manifest.loadFile files path = .ok m ∧
        validated.out = tick colored ++ path ++ ": " ++ toString m.metrics.length
          ++ " metrics in " ++ toString (m.metrics.map (·.scope)).eraseDups.length
          ++ " namespaces\n") ∧
    ∀ path m settled crate, o.path lookup files = .ok path →
      Manifest.loadFile files path = .ok m →
      Prevails .strict policy (some m.options.bucketPolicy) settled →
      Prevails Rust.defaultCrate crateName m.options.runtimeCrate crate →
      (∀ facades, compile settled m.declarations = .ok facades →
        validated.result = .ok () ∧
        (generated .json none).out = Description.source (facades.map Facade.named) ∧
        ((generated .rust none).result = .ok () ↔ Rust.isCrateName crate) ∧
        (Rust.isCrateName crate → (generated .rust none).out = Rust.source crate facades)) ∧
      ∀ vs, compile settled m.declarations = .error vs →
        vs ≠ [] ∧ Rejected colored vs validated ∧
        (∀ backend output, Rejected colored vs (generated backend output) ∧
          (generated backend output).err = validated.err) ∧
        ∀ output outDir, (Build.run outDir files ⟨path, output, crateName, policy⟩).result =
          .error ⟨.invalidListing path vs, []⟩ := by
  intro validated generated
  refine ⟨?_, ?_, ?_, ?_⟩
  · intro path output outDir p hpath hw built
    obtain ⟨hiff, hwritten⟩ := Build.build_ok_iff hw
    refine ⟨(generate_rust_ok_iff hpath).trans hiff.symm, fun h => ?_⟩
    obtain ⟨m, facades, text, hc, he⟩ := (generate_rust_ok_iff hpath).1 h
    rw [show (generated .rust none).out = text from generate_out hpath hc he]
    exact hwritten m facades text hc he
  · exact fun output hw => validate_iff_describe hw
  · exact fun path hpath h => validate_out hpath h
  · intro path m settled crate hpath hm hsettled hcrate
    obtain rfl := hsettled.unique (prevails_choosePolicy policy m)
    obtain rfl := hcrate.unique (prevails_chooseCrate crateName m)
    refine ⟨fun facades hc => ?_, fun vs hc => ?_⟩
    · have hcompiles : Compiles files path policy m facades := ⟨hm, hc⟩
      obtain ⟨hrust, hsource⟩ := generate_rust_of_compiles hpath hcompiles
      exact ⟨(validate_of_compiles hpath hcompiles).1, generate_out hpath hcompiles rfl, hrust,
        hsource⟩
    · have hvalidated : Rejected colored vs validated := validate_rejected hpath hm hc
      refine ⟨ne_nil_of_compile hc, hvalidated, fun backend output => ?_, fun output outDir => ?_⟩
      · have hgenerated : Rejected colored vs (generated backend output) :=
          generate_rejected hpath hm hc backend output
        exact ⟨hgenerated, hgenerated.err.trans hvalidated.err.symm⟩
      · exact Build.build_rejected hm hc

def counterBuild : Build :=
  { manifest := "m.toml", output := some "metrics.rs" }

def counterGenerate : Generate :=
  { origin := { manifest := some "m.toml" } }

theorem ok_of_toOption {α : Type} {r : Except Failure α} {a : α} (h : r.toOption = some a) :
    r = .ok a := by
  cases r with
  | error f => cases h
  | ok b => exact congrArg _ (Option.some.inj h)

theorem writable_counter : counterBuild.Writable none counterFiles "metrics.rs" :=
  ⟨rfl, (Build.place counterFiles "metrics.rs" "").1,
    Prod.ext rfl (ok_of_toOption (by decide +kernel))⟩

theorem generate_counter :
    (counterGenerate.run noPackageManager false counterFiles).result = .ok () :=
  ok_of_toOption (by decide +kernel)

/-- A manifest with one metric, whose name has a character that no name may have. -/
def misnamedFiles : Files :=
  ⟨[(["m.toml"], .text "[[metric]]\nident = \"A\"\ntype = \"counter\"\nname = \"a-b\"\n")]⟩

def misnamedManifest : Manifest :=
  { metrics := [{ ident := "A", kind := .counter, name := some "a-b" }] }

def misnamedViolations : List Violation :=
  [⟨.illegalName "a-b", ["metrics::A"]⟩]

theorem load_misnamed : Manifest.loadFile misnamedFiles "m.toml" = .ok misnamedManifest :=
  ok_of_toOption (by decide +kernel)

theorem compile_misnamed :
    compile .lenient misnamedManifest.declarations = .error misnamedViolations := by
  have h : violations .lenient misnamedManifest.declarations = misnamedViolations := by
    decide +kernel
  rw [compile, h]
  rfl

theorem counter_drivers_agree :
    counterBuild.Writable none counterFiles "metrics.rs" ∧
      (counterGenerate.run noPackageManager false counterFiles).result = .ok () ∧
      (counterBuild.run none counterFiles).files.read "metrics.rs" =
        .ok (counterGenerate.run noPackageManager false counterFiles).out ∧
      Rejected true misnamedViolations
        (Validate.run noPackageManager true misnamedFiles ⟨counterGenerate.origin, some .lenient⟩) := by
  have hrust :=
    (drivers_agree noPackageManager counterFiles counterGenerate.origin none none false).1
  have hwritten := (hrust "m.toml" (some "metrics.rs") none "metrics.rs" rfl writable_counter).2
  have hsettled := (drivers_agree noPackageManager misnamedFiles counterGenerate.origin
    (some .lenient) none true).2.2.2
  have hrejected := (hsettled "m.toml" misnamedManifest .lenient Rust.defaultCrate rfl load_misnamed
    (.asked _ _) .usual).2 _ compile_misnamed
  exact ⟨writable_counter, generate_counter, (hwritten generate_counter).2, hrejected.2.1⟩

end MetricFacade
