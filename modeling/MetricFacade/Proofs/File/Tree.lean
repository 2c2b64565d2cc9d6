import MetricFacade.File.Tree

/-!
# What writing changes in a tree of files

A write leaves its text at one place and every other place as it was, and the path still
leads there afterwards. Making directories never touches a file: whatever else happens, the
tree only grows by directories where there was nothing.

Results:

* `get?_put`: the entry at its place, every other place as before.
* `write_eq_ok`: when a write succeeds, and the tree it leaves. Whether it does has nothing to
  do with the text.
* `changes_write`, `read_write`: the one file it changes, and what is read from it.
* `grows_makeDirectories`: directories that are missing are all that is made.
-/
namespace MetricFacade.Files

open File

variable {fs fs' fs'' : Files} {path : String} {content : String} {place : Place}

/-! ## Places -/

/-- The file at a place, whatever it holds. -/
def file? (fs : Files) (place : Place) : Option Entry :=
  (fs.get? place).filter (· ≠ .directory)

theorem not_outermost (h : fs.get? place ≠ some .directory) : isOutermost place = false := by
  unfold get? at h
  split at h
  · exact absurd rfl h
  · rename_i hp
    exact Bool.eq_false_iff.2 hp

theorem find?_put (fs : Files) (place : Place) (entry : Entry) (q : Place) :
    ((fs.put place entry).entries.find? fun e => e.1 = q).map (·.2) =
      if q = place then some entry else (fs.entries.find? fun e => e.1 = q).map (·.2) := by
  unfold put
  split
  · rename_i hany
    rw [List.find?_map, Option.map_map]
    by_cases hq : q = place
    · subst hq
      have hkey : (fun e : Place × Entry => decide (e.1 = q)) ∘
          (fun e => if e.1 = q then (q, entry) else e) = fun e => decide (e.1 = q) := by
        funext e
        by_cases he : e.1 = q <;> simp [he]
      rw [if_pos rfl, hkey]
      obtain ⟨e, he⟩ := Option.isSome_iff_exists.1 (List.find?_isSome.2 (List.any_eq_true.1 hany))
      rw [he]
      simp [show e.1 = q by simpa using List.find?_some he]
    · have hkey : (fun e : Place × Entry => decide (e.1 = q)) ∘
          (fun e => if e.1 = place then (place, entry) else e) = fun e => decide (e.1 = q) := by
        funext e
        by_cases he : e.1 = place
        · simp [he]
        · simp [he]
      rw [if_neg hq, hkey]
      cases he : fs.entries.find? fun e => e.1 = q with
      | none => rfl
      | some e =>
        have hne : e.1 ≠ place := by
          rw [show e.1 = q by simpa using List.find?_some he]
          exact hq
        simp [hne]
  · rename_i hnone
    rw [List.find?_append]
    by_cases hq : q = place
    · subst hq
      have hnew : fs.entries.find? (fun e => e.1 = q) = none :=
        List.find?_eq_none.2 fun e he hkey => hnone (List.any_eq_true.2 ⟨e, he, hkey⟩)
      rw [if_pos rfl, hnew]
      simp
    · have hlast : List.find? (fun e : Place × Entry => e.1 = q) [(place, entry)] = none := by
        simp [Ne.symm hq]
      rw [if_neg hq, hlast, Option.or_none]

/-- A place that is a directory whatever the tree holds takes no entry. -/
theorem get?_put (fs : Files) (hp : isOutermost place = false) (entry : Entry) (q : Place) :
    (fs.put place entry).get? q = if q = place then some entry else fs.get? q := by
  unfold get?
  rw [find?_put]
  by_cases hq : q = place
  · rw [hq, hp]
    simp
  · simp [hq]

/-! ## Paths in a tree that keeps its directories -/

/-- Every directory is still there. -/
def KeepsDirectories (before after : Files) : Prop :=
  ∀ place, before.get? place = some .directory → after.get? place = some .directory

theorem walk_kept (h : KeepsDirectories fs fs') {start : Place} {parts : List String}
    (hw : fs.walk start parts = .ok place) : fs'.walk start parts = .ok place := by
  induction parts generalizing start with
  | nil => exact hw
  | cons part rest ih =>
    unfold walk at hw ⊢
    split at hw
    · rename_i hdir
      rw [h start hdir]
      exact ih hw
    · cases hw
    · cases hw

theorem locate_kept (h : KeepsDirectories fs fs') (hl : fs.locate path = .ok place) :
    fs'.locate path = .ok place := by
  unfold locate at hl ⊢
  split at hl
  · cases hl
  · rename_i hempty
    rw [if_neg hempty]
    exact walk_kept h hl

theorem keepsDirectories_put (h : fs.get? place ≠ some .directory) (entry : Entry) :
    KeepsDirectories fs (fs.put place entry) := by
  intro q hq
  rw [get?_put fs (not_outermost h), if_neg]
  · exact hq
  · rintro rfl
    exact h hq

/-! ## Writing -/

/-- A write succeeds if the path leads to a place that is no directory and does not ask for
one, and it leaves the text there. -/
theorem write_eq_ok : fs.write path content = .ok fs' ↔
    ∃ place, fs.locate path = .ok place ∧ endsInDots path = false ∧ endsInSlash path = false ∧
      fs.get? place ≠ some .directory ∧ fs' = fs.put place (.text content) := by
  unfold write
  cases hl : fs.locate path with
  | error fault =>
    constructor
    · intro h
      cases h
    · rintro ⟨place, h, -⟩
      cases h
  | ok place =>
    show (if endsInDots path = true then _ else _) = Except.ok fs' ↔ _
    constructor
    · intro h
      split at h
      · cases hf : fs.find path <;> rw [hf] at h <;> cases h
      · rename_i hdots
        split at h
        · cases h
        · rename_i hnot
          cases h
          rw [not_or] at hnot
          exact ⟨place, rfl, by simpa using hdots, by simpa using hnot.1, hnot.2, rfl⟩
    · rintro ⟨_, ⟨⟩, hdots, hslash, hdir, rfl⟩
      rw [if_neg (by simp [hdots]), if_neg (by simp [hslash, hdir])]

/-- Nothing but the text of one file has changed, which is the one at the path. -/
def Changes (before after : Files) (path content : String) : Prop :=
  ∃ place, after.locate path = .ok place ∧ after.get? place = some (.text content) ∧
    ∀ q, q ≠ place → after.file? q = before.file? q

theorem changes_write (h : fs.write path content = .ok fs') : Changes fs fs' path content := by
  obtain ⟨place, hl, -, -, hdir, rfl⟩ := write_eq_ok.1 h
  have hget := get?_put fs (not_outermost hdir) (.text content)
  refine ⟨place, locate_kept (keepsDirectories_put hdir _) hl, ?_, fun q hq => ?_⟩
  · rw [hget, if_pos rfl]
  · rw [file?, hget, if_neg hq, file?]

theorem read_write (h : fs.write path content = .ok fs') : fs'.read path = .ok content := by
  obtain ⟨place, hl, hdots, hslash, hdir, rfl⟩ := write_eq_ok.1 h
  unfold read find
  rw [locate_kept (keepsDirectories_put hdir _) hl]
  simp [bind, Except.bind, get?_put fs (not_outermost hdir), hdots, hslash]

/-- Another text would have been written as well. -/
theorem write_any (h : fs.write path content = .ok fs') (text : String) :
    ∃ fs'', fs.write path text = .ok fs'' := by
  obtain ⟨place, hl, hdots, hslash, hdir, -⟩ := write_eq_ok.1 h
  exact ⟨_, write_eq_ok.2 ⟨place, hl, hdots, hslash, hdir, rfl⟩⟩

/-! ## Making directories -/

/-- All that is new are directories where there was nothing. -/
def Grows (before after : Files) : Prop :=
  ∀ place, after.get? place = before.get? place ∨
    before.get? place = none ∧ after.get? place = some .directory

theorem Grows.refl (fs : Files) : Grows fs fs := fun _ => .inl rfl

theorem Grows.trans (h₁ : Grows fs fs') (h₂ : Grows fs' fs'') : Grows fs fs'' := by
  intro q
  rcases h₁ q with h | ⟨hnone, hdir⟩ <;> rcases h₂ q with h' | ⟨hnone', hdir'⟩
  · exact .inl (h'.trans h)
  · exact .inr ⟨h ▸ hnone', hdir'⟩
  · exact .inr ⟨hnone, h'.trans hdir⟩
  · rw [hdir] at hnone'
    cases hnone'

/-- The files of a tree that has grown are those that were there. -/
theorem Grows.file? (h : Grows fs fs') (q : Place) : fs'.file? q = fs.file? q := by
  unfold Files.file?
  rcases h q with h | ⟨hnone, hdir⟩
  · rw [h]
  · rw [hnone, hdir]
    rfl

theorem grows_makeDirectory (h : fs.makeDirectory path = .ok fs') : Grows fs fs' := by
  unfold makeDirectory at h
  cases hl : fs.locate path with
  | error fault => rw [hl] at h; cases h
  | ok place =>
    rw [hl] at h
    replace h : (if (fs.get? place).isSome = true then _ else _) = Except.ok fs' := h
    split at h
    · cases h
    · rename_i hfree
      have hnone : fs.get? place = none := by simpa using hfree
      cases h
      intro q
      rw [get?_put fs (not_outermost (by rw [hnone]; simp))]
      split
      · rename_i hq
        exact .inr ⟨hq ▸ hnone, rfl⟩
      · exact .inl rfl

theorem grows_enterDirectory (fs : Files) (path : String) :
    Grows fs (fs.enterDirectory path).1 := by
  unfold enterDirectory
  split
  · rename_i h
    exact grows_makeDirectory h
  · exact Grows.refl fs

theorem grows_enterDirectories (depth : Nat) (fs : Files) (path : String) :
    Grows fs (enterDirectories depth fs path).1 := by
  induction depth generalizing path with
  | zero => exact Grows.refl fs
  | succ depth ih =>
    unfold enterDirectories
    split
    · exact Grows.refl fs
    split
    · rename_i h
      exact grows_makeDirectory h
    · split
      · exact Grows.refl fs
      -- what is above the directory comes first
      · rename_i parent _
        have hparent := ih parent
        split
        · rename_i above h
          rw [h] at hparent
          exact hparent.trans (grows_enterDirectory above path)
        · rename_i above fault h
          rw [h] at hparent
          exact hparent
    · exact Grows.refl fs

theorem grows_makeDirectories (fs : Files) (path : String) :
    Grows fs (fs.makeDirectories path).1 :=
  grows_enterDirectories _ fs path

/-- A write into a tree that has grown changes no other file of the first one. -/
theorem Grows.changes (h : Grows fs fs') (hw : fs'.write path content = .ok fs'') :
    Changes fs fs'' path content := by
  obtain ⟨place, hl, hget, hrest⟩ := changes_write hw
  exact ⟨place, hl, hget, fun q hq => (hrest q hq).trans (h.file? q)⟩

end MetricFacade.Files
