import Mathlib.Data.Set.Insert

/-!
# File systems, and directories made one after another

A file system as a program sees it that asks for the type of a path and makes directories.  How a
path is resolved is left open: two paths may name one directory (`a` and `a/`, or through a link),
and making a directory may fail for any reason.  What is asked of it is what the system calls
promise: a directory that is made was not there before, is found under its path from then on, is
the only one made, and hides nothing that was found before.

* `FileSystem.ensureDir`, `FileSystem.mkdirs`: one directory, and those of a list in order, until
  one cannot be made;
* `ensureDir_cases`: what can become of one;
* `mkdirs_rule`: what the list leaves as it was;
* `mkdirs_made`, `mkdirs_created`: all of the list is there in the end, and nothing else is made.
-/

/-- The type of a file, as in `st_mode`. -/
inductive FileType
  | directory
  | regular
  | other
deriving DecidableEq, Repr

/-- A file system with states `σ`, paths `π`, file numbers `ι` and modes `μ`. -/
structure FileSystem (σ π ι μ : Type*) where
  /-- `stat`: the type and number of the file under a path. -/
  stat : σ → π → Option (FileType × ι)
  /-- `mkdir`: the state with the new directory, `none` when it fails. -/
  mkdir : σ → π → μ → Option σ
  /-- The directories that there are. -/
  directories : σ → Set ι
  /-- A directory that is made is new, is found under its path and is the only one made. -/
  mkdir_new : ∀ {s s' p m}, mkdir s p m = some s' →
    ∃ i, stat s' p = some (.directory, i) ∧ i ∉ directories s ∧
      directories s' = insert i (directories s)
  /-- What was found before is found after it. -/
  stat_mkdir : ∀ {s s' p m}, mkdir s p m = some s' →
    ∀ {q file}, stat s q = some file → stat s' q = some file

namespace FileSystem

variable {σ π ι μ : Type*} (fs : FileSystem σ π ι μ)

/-- The path is a directory. -/
def isDirectory (s : σ) (p : π) : Bool :=
  match fs.stat s p with
  | some (.directory, _) => true
  | _ => false

/-- Make the directory if it is not there yet: whether it is there then, and the state. -/
def ensureDir (mode : μ) (p : π) (s : σ) : Bool × σ :=
  if fs.isDirectory s p then (true, s)
  else
    match fs.mkdir s p mode with
    | none => (false, s)
    | some s' => (true, s')

/-- The directories of the list in order, until one of them is not there and cannot be made. -/
def mkdirs (mode : μ) : List π → σ → Bool × σ
  | [], s => (true, s)
  | p :: ps, s =>
    let first := fs.ensureDir mode p s
    if first.1 then mkdirs mode ps first.2 else first

variable {fs} {s s' : σ} {p : π} {mode : μ}

theorem isDirectory_iff : fs.isDirectory s p = true ↔ ∃ i, fs.stat s p = some (.directory, i) := by
  unfold isDirectory
  split
  · rename_i i hstat
    exact ⟨fun _ => ⟨i, hstat⟩, fun _ => rfl⟩
  · rename_i hno
    constructor
    · intro h
      cases h
    · rintro ⟨i, hstat⟩
      exact absurd hstat (hno i)

theorem isDirectory_of_mkdir (h : fs.mkdir s p mode = some s') : fs.isDirectory s' p = true := by
  obtain ⟨i, hstat, _⟩ := fs.mkdir_new h
  exact isDirectory_iff.mpr ⟨i, hstat⟩

/-- **One directory.** It is there, it cannot be made, or it is made. -/
theorem ensureDir_cases (mode : μ) (p : π) (s : σ) :
    (fs.isDirectory s p = true ∧ fs.ensureDir mode p s = (true, s)) ∨
    (fs.mkdir s p mode = none ∧ fs.ensureDir mode p s = (false, s)) ∨
    ∃ s', fs.mkdir s p mode = some s' ∧ fs.ensureDir mode p s = (true, s') := by
  unfold ensureDir
  cases hdir : fs.isDirectory s p with
  | true => exact .inl ⟨rfl, rfl⟩
  | false =>
    cases hmkdir : fs.mkdir s p mode with
    | none => exact .inr (.inl ⟨rfl, rfl⟩)
    | some s' => exact .inr (.inr ⟨s', rfl, rfl⟩)

theorem isDirectory_ensureDir (h : (fs.ensureDir mode p s).1 = true) :
    fs.isDirectory (fs.ensureDir mode p s).2 p = true := by
  rcases fs.ensureDir_cases mode p s with ⟨hdir, heq⟩ | ⟨_, heq⟩ | ⟨s', hmkdir, heq⟩
  · rw [heq]
    exact hdir
  · rw [heq] at h
    cases h
  · rw [heq]
    exact isDirectory_of_mkdir hmkdir

/-- **Induction over the list.** What holds of the state before, and stays when a directory of the
    list is made, holds of the state after. -/
theorem mkdirs_rule {P : σ → Prop} {ps : List π} (hs : P s)
    (hmake : ∀ t t' p, p ∈ ps → P t → fs.mkdir t p mode = some t' → P t') :
    P (fs.mkdirs mode ps s).2 := by
  induction ps generalizing s with
  | nil => exact hs
  | cons p ps ih =>
    have hfirst : P (fs.ensureDir mode p s).2 := by
      rcases fs.ensureDir_cases mode p s with ⟨_, heq⟩ | ⟨_, heq⟩ | ⟨s', hmkdir, heq⟩ <;> rw [heq]
      · exact hs
      · exact hs
      · exact hmake s s' p (by simp) hs hmkdir
    rw [mkdirs]
    split
    · apply ih hfirst
      intro t t' q hq
      exact hmake t t' q (List.mem_cons_of_mem p hq)
    · exact hfirst

/-- What is found before is found afterwards. -/
theorem stat_mkdirs {ps : List π} {file : FileType × ι} (h : fs.stat s p = some file) :
    fs.stat (fs.mkdirs mode ps s).2 p = some file := by
  apply mkdirs_rule (P := fun t => fs.stat t p = some file) h
  intro t t' q _ ht hmkdir
  exact fs.stat_mkdir hmkdir ht

theorem isDirectory_mkdirs {ps : List π} (h : fs.isDirectory s p = true) :
    fs.isDirectory (fs.mkdirs mode ps s).2 p = true := by
  obtain ⟨i, hstat⟩ := isDirectory_iff.mp h
  exact isDirectory_iff.mpr ⟨i, stat_mkdirs hstat⟩

/-- When none fails, all of the list is there. -/
theorem mkdirs_made {ps : List π} (h : (fs.mkdirs mode ps s).1 = true) :
    ∀ p ∈ ps, fs.isDirectory (fs.mkdirs mode ps s).2 p = true := by
  induction ps generalizing s with
  | nil => simp
  | cons p ps ih =>
    rw [mkdirs] at h ⊢
    cases hfirst : (fs.ensureDir mode p s).1 with
    | true =>
      simp only [hfirst, if_true] at h ⊢
      exact List.forall_mem_cons.mpr ⟨isDirectory_mkdirs (isDirectory_ensureDir hfirst), ih h⟩
    | false => simp [hfirst] at h

/-- Whatever fails, a directory that has been made is one of the list. -/
theorem mkdirs_created {ps : List π} {i : ι} (hnew : i ∉ fs.directories s)
    (h : i ∈ fs.directories (fs.mkdirs mode ps s).2) :
    ∃ p ∈ ps, fs.stat (fs.mkdirs mode ps s).2 p = some (.directory, i) := by
  have hrule : i ∈ fs.directories (fs.mkdirs mode ps s).2 →
      ∃ p ∈ ps, fs.stat (fs.mkdirs mode ps s).2 p = some (.directory, i) := by
    apply mkdirs_rule
      (P := fun t => i ∈ fs.directories t → ∃ p ∈ ps, fs.stat t p = some (.directory, i))
    · exact fun hold => absurd hold hnew
    · intro t t' p hp ht hmkdir hi
      obtain ⟨j, hstat, _, hall⟩ := fs.mkdir_new hmkdir
      rw [hall, Set.mem_insert_iff] at hi
      rcases hi with rfl | hi
      · exact ⟨p, hp, hstat⟩
      · obtain ⟨q, hq, hold⟩ := ht hi
        exact ⟨q, hq, fs.stat_mkdir hmkdir hold⟩
  exact hrule h

end FileSystem
