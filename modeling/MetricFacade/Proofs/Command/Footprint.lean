import MetricFacade.Build
import MetricFacade.Proofs.File.Tree

/-!
# What a run leaves behind

A task loads, compiles and emits before it touches the tree, and what it writes it writes at
once. So a task that fails leaves the tree as it was and prints nothing as its result, and
one that succeeds changes no file but the one that it was asked for. A build makes the
directories that are missing above its file as the last thing before it writes, so these are
all that can be left of one that fails.

Results:

* `Confined`: what a task may change; `confined_generate`, `confined_validate` and
  `confined_init` for the tasks.
* `run_congr`, `run_without_workspace`: only a task that names no file asks for a workspace, and it
  fails if there is none.
* `build_not_ready`, `build_ready`: a build before and after the point where it begins to
  change the tree.
* `runs_leave_nothing_behind`: all entry points together.
-/
namespace MetricFacade

open Files

namespace Command

/-- The file that a starter manifest is asked for: one that is named, or else the usual one in the
root of the workspace, as far as that is known. -/
def Init.target? (lookup : WorkspaceLookup) (args : Init) : Option String :=
  args.output.or ((lookup args.cargoManifest).toOption.map fun root =>
    File.join root "facadegen.toml")

/-- The file that the task is asked to write. -/
def Task.target? (lookup : WorkspaceLookup) : Task → Option String
  | .generate args => args.output
  | .validate _ => none
  | .init args => args.target? lookup

/-- A failure changes and prints nothing, a success changes the file that was asked for. -/
structure Confined (files : Files) (target? : Option String) (o : Outcome) : Prop where
  failure : ∀ f, o.result = .error f → o.files = files ∧ o.out = ""
  success : o.result = .ok () → (target? = none → o.files = files) ∧
    ∀ path, target? = some path → ∃ text, Changes files o.files path text

variable {lookup : WorkspaceLookup} {files : Files} {target? : Option String} {o : Outcome}

theorem Confined.of_failed {f : Failure} (hr : o.result = .error f) (hf : o.files = files)
    (ho : o.out = "") : Confined files target? o where
  failure _ _ := ⟨hf, ho⟩
  success h := by
    rw [hr] at h
    cases h

theorem Confined.of_printed (hr : o.result = .ok ()) (hf : o.files = files) :
    Confined files none o where
  failure f h := by
    rw [hr] at h
    cases h
  success _ := ⟨fun _ => hf, nofun⟩

theorem Confined.of_written {path text : String} {after : Files} (hr : o.result = .ok ())
    (hf : o.files = after) (hw : files.write path text = .ok after) :
    Confined files (some path) o where
  failure f h := by
    rw [hr] at h
    cases h
  success _ := by
    refine ⟨nofun, ?_⟩
    rintro _ ⟨⟩
    exact ⟨text, hf ▸ changes_write hw⟩

theorem confined_deliver (files : Files) (output : Option String) (count : Nat) (text : String)
    (log : List Log.Record) : Confined files output (deliver files output count text log) := by
  unfold deliver
  cases output with
  | none => exact .of_printed rfl rfl
  | some path =>
    dsimp only
    cases hw : files.write path text with
    | error fault => exact .of_failed rfl rfl rfl
    | ok after => exact .of_written rfl rfl hw

theorem confined_generate (colored : Bool) (files : Files) (args : Generate) :
    Confined files args.output (args.run lookup colored files) := by
  unfold Generate.run
  rcases args.origin.load lookup files with ⟨_ | ⟨path, m⟩, log⟩
  · exact .of_failed rfl rfl rfl
  dsimp only
  cases compile (choosePolicy args.policy m) m.declarations with
  | error vs => exact .of_failed rfl rfl rfl
  | ok facades =>
    dsimp only
    cases args.backend.emit (chooseCrate args.crateName m) facades with
    | error f => exact .of_failed rfl rfl rfl
    | ok text => exact confined_deliver _ _ _ _ _

theorem confined_validate (colored : Bool) (files : Files) (args : Validate) :
    Confined files none (args.run lookup colored files) := by
  unfold Validate.run
  rcases args.origin.load lookup files with ⟨_ | ⟨path, m⟩, log⟩
  · exact .of_failed rfl rfl rfl
  dsimp only
  cases compile (choosePolicy args.policy m) m.declarations with
  | error vs => exact .of_failed rfl rfl rfl
  | ok facades => exact .of_printed rfl rfl

theorem target_of_path {args : Init} {path : String} (h : args.path lookup = .ok path) :
    args.target? lookup = some path := by
  unfold Init.path workspaceRoot at h
  unfold Init.target?
  cases ho : args.output with
  | some given =>
    rw [ho] at h
    cases h
    rfl
  | none =>
    rw [ho] at h
    cases hroot : lookup args.cargoManifest with
    | error complaint =>
      rw [hroot] at h
      cases h
    | ok root =>
      rw [hroot] at h
      cases h
      rfl

theorem confined_init (files : Files) (args : Init) :
    Confined files (args.target? lookup) (args.run lookup files) := by
  unfold Init.run
  cases hpath : args.path lookup with
  | error f => exact .of_failed rfl rfl rfl
  | ok path =>
    rw [target_of_path hpath]
    dsimp only
    split
    · exact .of_failed rfl rfl rfl
    cases hw : files.write path Manifest.starter with
    | error fault => exact .of_failed rfl rfl rfl
    | ok after => exact .of_written rfl rfl hw

theorem confined_run (lookup : WorkspaceLookup) (terminal : Bool) (files : Files)
    (i : Invocation) : Confined files (i.task.target? lookup) (i.run terminal files lookup) := by
  unfold Invocation.run
  cases i.task with
  | generate args => exact confined_generate _ files args
  | validate args => exact confined_validate _ files args
  | init args => exact confined_init files args

/-! ## Asking for a workspace -/

/-- The Cargo manifest whose workspace has to be known. -/
def Origin.asks? (o : Origin) : Option String :=
  if o.manifest = none then some o.cargoManifest else none

def Init.asks? (args : Init) : Option String :=
  if args.output = none then some args.cargoManifest else none

def Task.asks? : Task → Option String
  | .generate args => args.origin.asks?
  | .validate args => args.origin.asks?
  | .init args => args.asks?

variable {lookup' : WorkspaceLookup} {o : Origin} {args : Init} {cargoManifest complaint : String}

theorem load_congr (h : ∀ p ∈ o.asks?, lookup p = lookup' p) :
    o.load lookup files = o.load lookup' files := by
  have hpath : o.path lookup files = o.path lookup' files := by
    unfold Origin.asks? at h
    unfold Origin.path workspaceRoot
    cases hm : o.manifest with
    | some path => rfl
    | none =>
      rw [if_pos hm] at h
      rw [h o.cargoManifest rfl]
  rw [Origin.load, Origin.load, hpath]

theorem starterPath_congr (h : ∀ p ∈ args.asks?, lookup p = lookup' p) :
    args.path lookup = args.path lookup' := by
  unfold Init.asks? at h
  unfold Init.path workspaceRoot
  cases ho : args.output with
  | some path => rfl
  | none =>
    rw [if_pos ho] at h
    rw [h args.cargoManifest rfl]

/-- What is said of other Cargo manifests makes no difference. -/
theorem run_congr {i : Invocation} (h : ∀ p ∈ i.task.asks?, lookup p = lookup' p)
    (terminal : Bool) (files : Files) :
    i.run terminal files lookup = i.run terminal files lookup' := by
  unfold Invocation.run
  cases ht : i.task with
  | generate args =>
    rw [ht] at h
    simp only [Generate.run, load_congr h]
  | validate args =>
    rw [ht] at h
    simp only [Validate.run, load_congr h]
  | init args =>
    rw [ht] at h
    simp only [Init.run, starterPath_congr h]

theorem load_of_complaint (hasks : o.asks? = some cargoManifest)
    (h : lookup cargoManifest = .error complaint) :
    o.load lookup files = (.error ⟨.noWorkspace complaint, [.findingWorkspace]⟩, []) := by
  unfold Origin.asks? at hasks
  split at hasks
  · next hm =>
    cases hasks
    rw [Origin.load, Origin.path, hm, workspaceRoot, h]
    rfl
  · cases hasks

theorem starterPath_of_complaint (hasks : args.asks? = some cargoManifest)
    (h : lookup cargoManifest = .error complaint) :
    args.path lookup = .error ⟨.noWorkspace complaint, [.findingWorkspace]⟩ := by
  unfold Init.asks? at hasks
  split at hasks
  · next ho =>
    cases hasks
    rw [Init.path, ho, workspaceRoot, h]
    rfl
  · cases hasks

/-- The complaint of the package manager is told. -/
theorem run_without_workspace {i : Invocation} (hasks : i.task.asks? = some cargoManifest)
    (h : lookup cargoManifest = .error complaint) (terminal : Bool) (files : Files) :
    (i.run terminal files lookup).result =
      .error ⟨.noWorkspace complaint, [.findingWorkspace]⟩ := by
  unfold Invocation.run
  cases ht : i.task with
  | generate args =>
    rw [ht] at hasks
    simp only [Generate.run, load_of_complaint hasks h]
  | validate args =>
    rw [ht] at hasks
    simp only [Validate.run, load_of_complaint hasks h]
  | init args =>
    rw [ht] at hasks
    simp only [Init.run, starterPath_of_complaint hasks h]

end Command

namespace Build

variable {outDir : Option String} {files after : Files} {b : Build}

/-- The build is at the point where it begins to change the tree: the manifest is loaded and
compiled, its text is emitted, and it is known where that goes. -/
def Ready (b : Build) (outDir : Option String) (files : Files) (p : Product) : Prop :=
  ∃ m facades, Manifest.loadFile files b.manifest = .ok m ∧
    compile (Command.choosePolicy b.policy m) m.declarations = .ok facades ∧
    b.product outDir m facades = .ok p

theorem build_ready {p : Product} (h : b.Ready outDir files p) :
    (b.run outDir files).files = (place files p.path p.text).1 ∧
      (b.run outDir files).result = (place files p.path p.text).2.map fun _ => p.path := by
  obtain ⟨m, facades, hm, hc, hp⟩ := h
  unfold run
  simp only [hm, hc, hp]
  rcases place files p.path p.text with ⟨after, _ | _⟩ <;> exact ⟨rfl, rfl⟩

theorem outputPath_of_ready {p : Product} (h : b.Ready outDir files p) :
    b.outputPath outDir = .ok p.path := by
  obtain ⟨m, facades, -, -, hp⟩ := h
  unfold product at hp
  cases he : Backend.emitRust (Command.chooseCrate b.crateName m) facades with
  | error f => rw [he] at hp; cases hp
  | ok text =>
    cases ho : b.outputPath outDir with
    | error f => rw [he, ho] at hp; cases hp
    | ok path => rw [he, ho] at hp; cases hp; rfl

theorem build_not_ready (h : ∀ p, ¬ b.Ready outDir files p) :
    (∃ f, (b.run outDir files).result = .error f) ∧ (b.run outDir files).files = files := by
  unfold run
  cases hm : Manifest.loadFile files b.manifest with
  | error f => exact ⟨⟨_, rfl⟩, rfl⟩
  | ok m =>
    dsimp only
    cases hc : compile (Command.choosePolicy b.policy m) m.declarations with
    | error vs => exact ⟨⟨_, rfl⟩, rfl⟩
    | ok facades =>
      dsimp only
      cases hp : b.product outDir m facades with
      | error f => exact ⟨⟨_, rfl⟩, rfl⟩
      | ok p => exact absurd ⟨m, facades, hm, hc, hp⟩ (h p)

/-- The tree with the directory that the path stands in, so far as it can be made. -/
def prepare (files : Files) (path : String) : Files × Except File.Fault Unit :=
  let parent := (File.parent? path).getD ""
  if parent.isEmpty then (files, .ok ()) else files.makeDirectories parent

theorem grows_prepare (files : Files) (path : String) : Grows files (prepare files path).1 := by
  unfold prepare
  dsimp only
  split
  · exact Grows.refl files
  · exact grows_makeDirectories _ _

theorem place_of_fault {path : String} {mid : Files} {fault : File.Fault}
    (h : prepare files path = (mid, .error fault)) (text : String) :
    place files path text =
      (mid, .error (.ofFault fault (.makingDirectory ((File.parent? path).getD "")))) := by
  unfold prepare at h
  unfold place
  dsimp only at h ⊢
  rw [h]

theorem place_of_prepared {path : String} {mid : Files}
    (h : prepare files path = (mid, .ok ())) (text : String) :
    place files path text =
      match mid.write path text with
      | .error fault => (mid, .error (.ofFault fault (.writingMetrics path)))
      | .ok after => (after, .ok ()) := by
  unfold prepare at h
  unfold place
  dsimp only at h ⊢
  cases hw : mid.write path text <;> simp only [h, hw]

/-- Directories come first, then the one write. -/
theorem place_cases (files : Files) (path text : String) :
    (∃ mid f, Grows files mid ∧ place files path text = (mid, .error f)) ∨
      ∃ mid after, Grows files mid ∧ mid.write path text = .ok after ∧
        place files path text = (after, .ok ()) := by
  have hgrows := grows_prepare files path
  rcases hp : prepare files path with ⟨mid, fault | ⟨⟩⟩
  · rw [hp] at hgrows
    exact .inl ⟨mid, _, hgrows, place_of_fault hp text⟩
  · rw [hp] at hgrows
    rw [place_of_prepared hp text]
    cases hw : mid.write path text with
    | error fault => exact .inl ⟨mid, _, hgrows, rfl⟩
    | ok after => exact .inr ⟨mid, after, hgrows, hw, rfl⟩

/-- A build that fails leaves every file as it was, and the tree as a whole if it was not
ready to change it. One that succeeds changes its own file. -/
theorem confined_build (outDir : Option String) (files : Files) (b : Build) :
    (∀ f, (b.run outDir files).result = .error f →
      Grows files (b.run outDir files).files ∧
      ((∀ p, ¬ b.Ready outDir files p) → (b.run outDir files).files = files)) ∧
    ∀ path, (b.run outDir files).result = .ok path → b.outputPath outDir = .ok path ∧
      ∃ text, Changes files (b.run outDir files).files path text := by
  by_cases h : ∃ p, b.Ready outDir files p
  · obtain ⟨p, hp⟩ := h
    obtain ⟨hfiles, hresult⟩ := build_ready hp
    rw [hfiles, hresult]
    obtain ⟨mid, f, hgrows, hplace⟩ | ⟨mid, after, hgrows, hw, hplace⟩ :=
      place_cases files p.path p.text
    · rw [hplace]
      exact ⟨fun _ _ => ⟨hgrows, fun hnot => absurd hp (hnot p)⟩, nofun⟩
    · rw [hplace]
      refine ⟨nofun, ?_⟩
      rintro _ ⟨⟩
      exact ⟨outputPath_of_ready hp, p.text, hgrows.changes hw⟩
  · obtain ⟨⟨f, hresult⟩, hfiles⟩ := build_not_ready fun p hp => h ⟨p, hp⟩
    rw [hfiles, hresult]
    exact ⟨fun _ _ => ⟨Grows.refl files, fun _ => rfl⟩, nofun⟩

end Build

/-- **Failing runs leave nothing behind.** Whatever the tree holds, and whatever the package manager
says when it is asked for a workspace,

* a task that fails leaves it as it was and has printed nothing as its result, and one that
  succeeds changes the file that it was asked to write and no other;
* a build that fails leaves every file as it was and makes none. If the manifest could not be
  loaded or compiled, its text not emitted, or no output directory found, the build does fail
  and the tree is the same, directories included;
* a build that succeeds changes the file that it was asked to write and no other. -/
theorem runs_leave_nothing_behind (files : Files) :
    (∀ (lookup : Command.WorkspaceLookup) (terminal : Bool) (i : Command.Invocation),
      let o := i.run terminal files lookup
      (∀ f, o.result = .error f → o.files = files ∧ o.out = "") ∧
      (o.result = .ok () → (i.task.target? lookup = none → o.files = files) ∧
        ∀ path, i.task.target? lookup = some path →
          ∃ text, Changes files o.files path text)) ∧
    ∀ (outDir : Option String) (b : Build),
      let o := b.run outDir files
      (∀ f, o.result = .error f → ∀ place, o.files.file? place = files.file? place) ∧
      ((∀ p, ¬ b.Ready outDir files p) → (∃ f, o.result = .error f) ∧ o.files = files) ∧
      ∀ path, o.result = .ok path → b.outputPath outDir = .ok path ∧
        ∃ text, Changes files o.files path text := by
  refine ⟨fun lookup terminal i => ?_, fun outDir b => ?_⟩
  · have h := Command.confined_run lookup terminal files i
    exact ⟨h.failure, h.success⟩
  · have h := Build.confined_build outDir files b
    exact ⟨fun f hf => ((h.1 f hf).1.file? ·), Build.build_not_ready, h.2⟩

/-- A manifest with one metric, and nothing else on disk. -/
def counterFiles : Files :=
  ⟨[(["m.toml"], .text "[[metric]]\nident = \"A\"\ntype = \"counter\"\n")]⟩

/-- The path leads back up, so writing fails, but the directory on the way is made by then. -/
def upwardBuild : Build :=
  { manifest := "m.toml", output := some "d/.." }

example : (upwardBuild.run none counterFiles).result.toOption = none ∧
    (upwardBuild.run none counterFiles).files.entries =
      counterFiles.entries ++ [(["d"], .directory)] := by
  decide +kernel

end MetricFacade
