import TimeService.Lib.CString
import TimeService.Lib.FileSystem

namespace TimeService

open CString

/-!
# Making the directories of a path

`IsExistDir`, `IsExistFile`, `MkRecursiveDir` and `GetPathDir` of `time_file_utils.cpp`.
`MkRecursiveDir` grows the path in `rootDir`, a buffer of `PATH_MAX` bytes filled with zeros, and
makes a directory of what is in the buffer at each separator and at the last byte.  A path is a
list of bytes; the file system is a parameter.  `DirRun` keeps which strings are handed to
`IsExistDir` and `mkdir`.

* `mkRecursiveDirLoop_eq`: the loop visits the levels of the path, and reads behind the buffer when
  a level fills it;
* `mkRecursiveDir_ne_write`: nothing is ever written outside the buffer;
* `mkRecursiveDir_of_lt`, `mkRecursiveDir_of_eq`: what the whole function does with a path shorter
  than `PATH_MAX`, and with one of `PATH_MAX` bytes;
* `mkRecursiveDir_sound_iff`: when it does what it should.
-/

/-! ### Paths and modes -/

/-- `PATH_MAX`. -/
def pathMax : ℕ := 4096

/-- `PATH_SEPARATOR`. -/
def pathSeparator : UInt8 := 47

/-- A path, as the bytes of a string. -/
abbrev Path := List UInt8

/-- A `mode_t`. -/
abbrev Mode := BitVec 32

def sIRWXU : Mode := 0o700
def sIRWXG : Mode := 0o070
def sIXOTH : Mode := 0o001
def sIROTH : Mode := 0o004

/-- The mode that `MkRecursiveDir` makes a directory with. -/
def dirMode (isReadOthers : Bool) : Mode :=
  sIRWXU ||| sIRWXG ||| sIXOTH ||| (if isReadOthers then sIROTH else 0)

/-! ### The code -/

variable {σ ι : Type*} (fs : FileSystem σ Path ι Mode)

/-- The file system, and the strings handed to `IsExistDir` and `mkdir` so far. -/
structure DirRun (σ : Type*) where
  state : σ
  handed : List Path

/-- What the code does outside `rootDir`. -/
inductive BufferFault
  | write
  | read
deriving DecidableEq, Repr

/-- `TimeFileUtils::IsExistFile`. -/
def isExistFile (s : σ) (file : Path) : Bool :=
  match fs.stat s file with
  | some (.regular, _) => true
  | _ => false

/-- `TimeFileUtils::IsExistDir`. -/
def isExistDir (run : DirRun σ) (path : Path) : Bool × DirRun σ :=
  (fs.isDirectory run.state path, { run with handed := run.handed ++ [path] })

/-- `mkdir`: whether it has succeeded. -/
def makeDir (run : DirRun σ) (path : Path) (mode : Mode) : Bool × DirRun σ :=
  match fs.mkdir run.state path mode with
  | none => (false, { run with handed := run.handed ++ [path] })
  | some state => (true, ⟨state, run.handed ++ [path]⟩)

/-- The loop of `MkRecursiveDir` from index `i` on, with the bytes of `dir` that are left. -/
def mkRecursiveDirLoop (mode : Mode) (len : ℕ) :
    List UInt8 → ℕ → Buffer pathMax → DirRun σ → Except BufferFault (Bool × DirRun σ)
  | [], _, _, run => .ok (true, run)
  | c :: rest, i, rootDir, run =>
    if h : i < pathMax then
      let rootDir := rootDir.set i c
      if c = pathSeparator ∨ i = len - 1 then
        match Buffer.text rootDir with
        | none => .error .read
        | some path =>
          let exist := isExistDir fs run path
          if exist.1 then mkRecursiveDirLoop mode len rest (i + 1) rootDir exist.2
          else
            let made := makeDir fs exist.2 path mode
            if made.1 then mkRecursiveDirLoop mode len rest (i + 1) rootDir made.2
            else .ok (false, made.2)
      else mkRecursiveDirLoop mode len rest (i + 1) rootDir run
    else .error .write

/-- `TimeFileUtils::MkRecursiveDir`. -/
def mkRecursiveDir (dir : Option Text) (isReadOthers : Bool) (s : σ) :
    Except BufferFault (Bool × DirRun σ) :=
  match dir with
  | none => .ok (false, ⟨s, []⟩)
  | some dir =>
    let exist := isExistDir fs ⟨s, []⟩ dir.bytes
    if exist.1 then .ok (true, exist.2)
    else
      let len := dir.bytes.length
      if len = 0 ∨ len > pathMax then .ok (false, exist.2)
      else
        mkRecursiveDirLoop fs (dirMode isReadOthers) len dir.bytes 0 (Buffer.zeroed pathMax)
          exist.2

/-- `TimeFileUtils::GetPathDir`: the path up to its last separator. -/
def getPathDir (path : Path) : Path :=
  (path.reverse.dropWhile (· ≠ pathSeparator)).reverse

/-! ### The levels of a path -/

/-- The directories above the path: its proper prefixes that end in a separator. -/
def parents (dir : Path) : List Path :=
  ((List.range (dir.length - 1)).filter fun i => dir[i]? = some pathSeparator).map
    fun i => dir.take (i + 1)

/-- The directories above the path and the path itself, shortest first. -/
def levels (dir : Path) : List Path := parents dir ++ [dir]

/-- At index `i` the loop makes a directory. -/
def IsLevel (dir : Path) (i : ℕ) : Prop := dir[i]? = some pathSeparator ∨ i = dir.length - 1

instance (dir : Path) (i : ℕ) : Decidable (IsLevel dir i) :=
  inferInstanceAs (Decidable (_ ∨ _))

/-- The prefixes that the loop visits from index `i` on. -/
def levelsFrom (dir : Path) (i : ℕ) : List Path :=
  ((List.range' i (dir.length - i)).filter fun j => IsLevel dir j).map fun j => dir.take (j + 1)

/-- What the loop does with a level: it has to end inside the buffer. -/
def visitLevel (mode : Mode) (path : Path) (run : DirRun σ) :
    Except BufferFault (Bool × DirRun σ) :=
  if path.length < pathMax then
    let exist := isExistDir fs run path
    .ok (if exist.1 then exist else makeDir fs exist.2 path mode)
  else .error .read

/-- What it does with several, until one of them cannot be made. -/
def visit (mode : Mode) : List Path → DirRun σ → Except BufferFault (Bool × DirRun σ)
  | [], run => .ok (true, run)
  | path :: paths, run =>
    match visitLevel fs mode path run with
    | .error fault => .error fault
    | .ok first => if first.1 then visit mode paths first.2 else .ok (false, first.2)

theorem levelsFrom_of_le {dir : Path} {i : ℕ} (hi : dir.length ≤ i) : levelsFrom dir i = [] := by
  have hnone : dir.length - i = 0 := by omega
  simp [levelsFrom, hnone]

theorem levelsFrom_of_lt {dir : Path} {i : ℕ} (hi : i < dir.length) :
    levelsFrom dir i
      = if IsLevel dir i then dir.take (i + 1) :: levelsFrom dir (i + 1)
        else levelsFrom dir (i + 1) := by
  have hcount : dir.length - i = dir.length - (i + 1) + 1 := by omega
  rw [levelsFrom, hcount, List.range'_succ, List.filter_cons]
  by_cases hlevel : IsLevel dir i
  · simp [hlevel, levelsFrom]
  · simp [hlevel, levelsFrom]

/-- From the first index on these are all of the levels. -/
theorem levelsFrom_zero {dir : Path} (hne : 0 < dir.length) : levelsFrom dir 0 = levels dir := by
  obtain ⟨k, hk⟩ : ∃ k, dir.length = k + 1 := ⟨dir.length - 1, by omega⟩
  have hlast : IsLevel dir k := .inr (by omega)
  have hfirst : ∀ i ∈ List.range k,
      decide (IsLevel dir i) = decide (dir[i]? = some pathSeparator) := by
    intro i hi
    have hlt : i < k := List.mem_range.mp hi
    have hne : ¬ i = dir.length - 1 := by omega
    simp [IsLevel, hne]
  have hall : dir.take (k + 1) = dir := List.take_of_length_le (by omega)
  rw [levelsFrom, levels, parents, hk, Nat.sub_zero, Nat.add_sub_cancel, ← List.range_eq_range',
    List.range_succ, List.filter_append, List.filter_congr hfirst, List.map_append]
  simp [hlast, hall]

/-- The levels of `/a//b/`. -/
example : levels [47, 97, 47, 47, 98, 47]
    = [[47], [47, 97, 47], [47, 97, 47, 47], [47, 97, 47, 47, 98, 47]] := by decide

theorem mem_parents {dir p : Path} (h : p ∈ parents dir) :
    p ≠ [] ∧ p <+: dir ∧ p.length < dir.length := by
  rw [parents, List.mem_map] at h
  obtain ⟨i, hi, rfl⟩ := h
  have hlt : i < dir.length - 1 := List.mem_range.mp (List.mem_of_mem_filter hi)
  have hcount : (dir.take (i + 1)).length = i + 1 := List.length_take_of_le (by omega)
  refine ⟨?_, List.take_prefix _ _, by omega⟩
  intro hnil
  rw [hnil] at hcount
  cases hcount

/-- The levels of a path are prefixes of it. -/
theorem mem_levels {dir p : Path} (hpos : 0 < dir.length) (hp : p ∈ levels dir) :
    p ≠ [] ∧ p <+: dir := by
  rcases List.mem_append.mp hp with hp | hp
  · exact ⟨(mem_parents hp).1, (mem_parents hp).2.1⟩
  · rw [List.mem_singleton.mp hp]
    exact ⟨List.ne_nil_of_length_pos hpos, List.prefix_rfl⟩

theorem self_mem_levels (dir : Path) : dir ∈ levels dir := by
  simp [levels]

/-! ### The loop -/

variable (mode : Mode)

/-- **The buffer.** From index `i` on, with the first `i` bytes in the buffer, the loop visits the
    levels that are left. -/
theorem mkRecursiveDirLoop_eq {dir : Path} (hzero : 0 ∉ dir) (hlen : dir.length ≤ pathMax) {i : ℕ}
    {rootDir : Buffer pathMax} (hheld : Holds rootDir (dir.take i)) (run : DirRun σ) :
    mkRecursiveDirLoop fs mode dir.length (dir.drop i) i rootDir run
      = visit fs mode (levelsFrom dir i) run := by
  generalize hrest : dir.drop i = rest
  induction rest generalizing i rootDir run with
  | nil =>
    rw [levelsFrom_of_le (List.drop_eq_nil_iff.mp hrest)]
    rfl
  | cons c rest ih =>
    have hi : i < dir.length := by
      by_contra hle
      rw [List.drop_eq_nil_of_le (by omega)] at hrest
      cases hrest
    obtain ⟨hc, hnext⟩ : dir[i] = c ∧ dir.drop (i + 1) = rest := by
      rw [List.drop_eq_getElem_cons hi] at hrest
      exact List.cons.inj hrest
    have htake : dir.take (i + 1) = dir.take i ++ [c] := by
      rw [List.take_succ_eq_append_getElem hi, hc]
    have hcount : (dir.take i).length = i := List.length_take_of_le hi.le
    have hcount' : (dir.take (i + 1)).length = i + 1 := List.length_take_of_le hi
    have hbyte : c ≠ 0 := by
      rintro rfl
      exact hzero (hc ▸ List.getElem_mem hi)
    -- the byte is written behind the others; the zero that ends the level is what is left there
    have hheld' : Holds (rootDir.set i c (by omega)) (dir.take (i + 1)) := by
      have hset := hheld.set hbyte (by omega)
      simpa only [hcount, ← htake] using hset
    have hcont := fun run => ih hheld' run hnext
    have hlevel : (c = pathSeparator ∨ i = dir.length - 1) ↔ IsLevel dir i := by
      simp [IsLevel, List.getElem?_eq_getElem hi, hc]
    rw [mkRecursiveDirLoop, dif_pos (by omega), levelsFrom_of_lt hi]
    simp only [hlevel, hheld'.text_eq, hcount']
    by_cases hat : IsLevel dir i
    · rw [if_pos hat, if_pos hat, visit, visitLevel, hcount']
      by_cases hroom : i + 1 < pathMax
      · simp only [if_pos hroom, hcont]
        cases hexist : (isExistDir fs run (dir.take (i + 1))).1 with
        | true => simp [hexist]
        | false => simp
      · simp only [if_neg hroom]
    · rw [if_neg hat, if_neg hat]
      exact hcont run

/-- Visiting two lists of levels: the second one only when the first is all there. -/
theorem visit_append (ps qs : List Path) (run : DirRun σ) :
    visit fs mode (ps ++ qs) run =
      match visit fs mode ps run with
      | .error fault => .error fault
      | .ok first => if first.1 then visit fs mode qs first.2 else .ok (false, first.2) := by
  induction ps generalizing run with
  | nil => rfl
  | cons p ps ih =>
    rw [List.cons_append, visit, visit]
    cases visitLevel fs mode p run with
    | error fault => rfl
    | ok first =>
      cases hfirst : first.1 with
      | true =>
        simp only [hfirst, if_true]
        exact ih first.2
      | false => simp [hfirst]

/-- **One level.** A level that ends inside the buffer is made as the file system makes it, and
    nothing else is handed on. -/
theorem visitLevel_eq {p : Path} (hshort : p.length < pathMax) (run : DirRun σ) :
    ∃ handed, (∀ q ∈ handed, q ∈ run.handed ∨ q = p) ∧
      visitLevel fs mode p run
        = .ok ((fs.ensureDir mode p run.state).1,
            ⟨(fs.ensureDir mode p run.state).2, handed⟩) := by
  rw [visitLevel, if_pos hshort]
  unfold FileSystem.ensureDir
  cases hdir : fs.isDirectory run.state p with
  | true => exact ⟨run.handed ++ [p], by simp, by simp [isExistDir, hdir]⟩
  | false =>
    refine ⟨run.handed ++ [p] ++ [p], by simp, ?_⟩
    cases hmkdir : fs.mkdir run.state p mode with
    | none => simp [isExistDir, makeDir, hdir, hmkdir]
    | some state => simp [isExistDir, makeDir, hdir, hmkdir]

/-- **The levels.** Levels that end inside the buffer are made as the file system makes them one
    after another, and nothing but them is handed on. -/
theorem visit_eq {ps : List Path} (hshort : ∀ p ∈ ps, p.length < pathMax) (run : DirRun σ) :
    ∃ handed, (∀ p ∈ handed, p ∈ run.handed ∨ p ∈ ps) ∧
      visit fs mode ps run
        = .ok ((fs.mkdirs mode ps run.state).1, ⟨(fs.mkdirs mode ps run.state).2, handed⟩) := by
  induction ps generalizing run with
  | nil => exact ⟨run.handed, fun p hp => .inl hp, rfl⟩
  | cons p ps ih =>
    obtain ⟨before, hbefore, hlevel⟩ := visitLevel_eq fs mode (hshort p (by simp)) run
    obtain ⟨handed, hhanded, hvisit⟩ := ih (fun q hq => hshort q (List.mem_cons_of_mem p hq))
      ⟨(fs.ensureDir mode p run.state).2, before⟩
    rw [visit, hlevel, FileSystem.mkdirs]
    cases hfirst : (fs.ensureDir mode p run.state).1 with
    | true =>
      refine ⟨handed, ?_, by simpa [hfirst] using hvisit⟩
      intro q hq
      rw [List.mem_cons]
      rcases hhanded q hq with hq | hq
      · exact (hbefore q hq).imp_right Or.inl
      · exact .inr (.inr hq)
    | false =>
      refine ⟨before, ?_, by simp [hfirst]⟩
      intro q hq
      rw [List.mem_cons]
      exact (hbefore q hq).imp_right Or.inl

theorem visitLevel_error {p : Path} {run : DirRun σ} {fault : BufferFault}
    (h : visitLevel fs mode p run = .error fault) : fault = .read := by
  unfold visitLevel at h
  split at h
  · cases h
  · cases h
    rfl

theorem visit_error {ps : List Path} {run : DirRun σ} {fault : BufferFault}
    (h : visit fs mode ps run = .error fault) : fault = .read := by
  induction ps generalizing run with
  | nil => cases h
  | cons p ps ih =>
    rw [visit] at h
    cases hlevel : visitLevel fs mode p run with
    | error first =>
      rw [hlevel] at h
      cases h
      exact visitLevel_error fs mode hlevel
    | ok first =>
      simp only [hlevel] at h
      split at h
      · exact ih h
      · cases h

/-! ### The whole function -/

variable {fs} {dir : Text} (isReadOthers : Bool) {s : σ}

/-- A path that is a directory is left alone. -/
theorem mkRecursiveDir_of_isDirectory (hdir : fs.isDirectory s dir.bytes = true) :
    mkRecursiveDir fs (some dir) isReadOthers s = .ok (true, ⟨s, [dir.bytes]⟩) := by
  simp [mkRecursiveDir, isExistDir, hdir]

/-- Any other path that passes the check of its length is made level by level. -/
theorem mkRecursiveDir_eq_visit (hdir : fs.isDirectory s dir.bytes = false)
    (hpos : 0 < dir.bytes.length) (hmax : dir.bytes.length ≤ pathMax) :
    mkRecursiveDir fs (some dir) isReadOthers s
      = visit fs (dirMode isReadOthers) (levels dir.bytes) ⟨s, [dir.bytes]⟩ := by
  have hchecked : ¬ (dir.bytes.length = 0 ∨ dir.bytes.length > pathMax) := by omega
  have hloop := mkRecursiveDirLoop_eq fs (dirMode isReadOthers) dir.zero_notMem
    hmax (i := 0) (holds_zeroed pathMax) ⟨s, [dir.bytes]⟩
  rw [List.drop_zero, levelsFrom_zero hpos] at hloop
  simp only [mkRecursiveDir, isExistDir, hdir, Bool.false_eq_true, if_false, if_neg hchecked]
  exact hloop

/-- Whatever the path, nothing is written outside the buffer. -/
theorem mkRecursiveDir_ne_write (dir : Option Text) :
    mkRecursiveDir fs dir isReadOthers s ≠ .error .write := by
  cases dir with
  | none =>
    intro h
    cases h
  | some dir =>
    cases hdir : fs.isDirectory s dir.bytes with
    | true =>
      rw [mkRecursiveDir_of_isDirectory isReadOthers hdir]
      intro h
      cases h
    | false =>
      by_cases hchecked : 0 < dir.bytes.length ∧ dir.bytes.length ≤ pathMax
      · rw [mkRecursiveDir_eq_visit isReadOthers hdir hchecked.1 hchecked.2]
        intro h
        cases visit_error fs _ h
      · have hrefused : dir.bytes.length = 0 ∨ dir.bytes.length > pathMax := by omega
        simp only [mkRecursiveDir, isExistDir, hdir, Bool.false_eq_true, if_false,
          if_pos hrefused]
        intro h
        cases h

/-- **Below the limit.** The whole function makes the levels that are not there, one after another,
    and answers whether all of them are. -/
theorem mkRecursiveDir_of_lt (hdir : fs.isDirectory s dir.bytes = false)
    (hpos : 0 < dir.bytes.length) (hlt : dir.bytes.length < pathMax) :
    ∃ handed, (∀ p ∈ handed, p ∈ levels dir.bytes) ∧
      mkRecursiveDir fs (some dir) isReadOthers s
        = .ok ((fs.mkdirs (dirMode isReadOthers) (levels dir.bytes) s).1,
            ⟨(fs.mkdirs (dirMode isReadOthers) (levels dir.bytes) s).2, handed⟩) := by
  have hshort : ∀ p ∈ levels dir.bytes, p.length < pathMax := by
    intro p hp
    have := (mem_levels hpos hp).2.length_le
    omega
  obtain ⟨handed, hhanded, hvisit⟩ := visit_eq fs (dirMode isReadOthers) hshort
    ⟨s, [dir.bytes]⟩
  refine ⟨handed, ?_, (mkRecursiveDir_eq_visit isReadOthers hdir hpos hlt.le).trans hvisit⟩
  intro p hp
  rcases hhanded p hp with hfirst | hlevel
  · rw [List.mem_singleton.mp hfirst]
    exact self_mem_levels dir.bytes
  · exact hlevel

/-- **At the limit.** The directories above the path are made; when all of them are there, the path
    fills the buffer and what is read as its end lies behind it. -/
theorem mkRecursiveDir_of_eq (hdir : fs.isDirectory s dir.bytes = false)
    (heq : dir.bytes.length = pathMax) :
    ∃ handed, (∀ p ∈ handed, p ∈ levels dir.bytes) ∧
      mkRecursiveDir fs (some dir) isReadOthers s
        = if (fs.mkdirs (dirMode isReadOthers) (parents dir.bytes) s).1 then .error .read
          else .ok (false,
            ⟨(fs.mkdirs (dirMode isReadOthers) (parents dir.bytes) s).2, handed⟩) := by
  have hpos : 0 < dir.bytes.length := by
    rw [heq]
    decide
  have hshort : ∀ p ∈ parents dir.bytes, p.length < pathMax := by
    intro p hp
    have := (mem_parents hp).2.2
    omega
  obtain ⟨handed, hhanded, hvisit⟩ := visit_eq fs (dirMode isReadOthers) hshort
    ⟨s, [dir.bytes]⟩
  have hfull : ∀ run : DirRun σ,
      visit fs (dirMode isReadOthers) [dir.bytes] run = .error .read := by
    intro run
    rw [visit, visitLevel, if_neg (by omega)]
  refine ⟨handed, ?_, ?_⟩
  · intro p hp
    rw [levels, List.mem_append]
    exact (hhanded p hp).symm
  · rw [mkRecursiveDir_eq_visit isReadOthers hdir hpos heq.le, levels, visit_append, hvisit]
    show (if (fs.mkdirs (dirMode isReadOthers) (parents dir.bytes) s).1 = true
      then visit fs (dirMode isReadOthers) [dir.bytes] _ else _) = _
    rw [hfull]

/-- What `MkRecursiveDir` should have done when it returns: it has handed on no string but prefixes
    of the path, the path is a directory if it answers so, and every directory that it has made is
    under a prefix of the path. -/
structure MakesPath (fs : FileSystem σ Path ι Mode) (dir : Path) (s : σ) (answer : Bool)
    (run : DirRun σ) : Prop where
  handed_prefix : ∀ p ∈ run.handed, p ≠ [] ∧ p <+: dir
  answer_made : answer = true → fs.isDirectory run.state dir = true
  created_prefix : ∀ i ∈ fs.directories run.state, i ∉ fs.directories s →
    ∃ p, p ≠ [] ∧ p <+: dir ∧ fs.stat run.state p = some (.directory, i)

/-- Making directories of a list of prefixes of the path does no more than it should. -/
theorem makesPath_of_mkdirs {dir : Path} (ps : List Path) {handed : List Path} {answer : Bool}
    (hps : ∀ p ∈ ps, p ≠ [] ∧ p <+: dir) (hhanded : ∀ p ∈ handed, p ≠ [] ∧ p <+: dir)
    (hanswer : answer = true → fs.isDirectory (fs.mkdirs mode ps s).2 dir = true) :
    MakesPath fs dir s answer ⟨(fs.mkdirs mode ps s).2, handed⟩ where
  handed_prefix := hhanded
  answer_made := hanswer
  created_prefix := by
    intro i hi hnew
    obtain ⟨p, hp, hstat⟩ := FileSystem.mkdirs_created hnew hi
    exact ⟨p, (hps p hp).1, (hps p hp).2, hstat⟩

/-- **Making a path.** For every path that the check of the length admits, `MkRecursiveDir` stays in
    its buffer and does what it should exactly when the path is shorter than `PATH_MAX`, or is a
    directory already, or one of the directories above it cannot be made. -/
theorem mkRecursiveDir_sound_iff (fs : FileSystem σ Path ι Mode) (dir : Text) (isReadOthers : Bool)
    (s : σ) (hpos : 0 < dir.bytes.length) (hmax : dir.bytes.length ≤ pathMax) :
    (∃ answer run, mkRecursiveDir fs (some dir) isReadOthers s = .ok (answer, run) ∧
      MakesPath fs dir.bytes s answer run) ↔
    dir.bytes.length < pathMax ∨ fs.isDirectory s dir.bytes = true ∨
      (fs.mkdirs (dirMode isReadOthers) (parents dir.bytes) s).1 = false := by
  have hprefix : ∀ p ∈ levels dir.bytes, p ≠ [] ∧ p <+: dir.bytes := fun p => mem_levels hpos
  have hself : ∀ p ∈ [dir.bytes], p ≠ [] ∧ p <+: dir.bytes := by
    intro p hp
    rw [List.mem_singleton.mp hp]
    exact hprefix _ (self_mem_levels dir.bytes)
  cases hdir : fs.isDirectory s dir.bytes with
  | true =>
    have hmakes : MakesPath fs dir.bytes s true ⟨s, [dir.bytes]⟩ :=
      makesPath_of_mkdirs (dirMode isReadOthers) [] (by simp) hself fun _ => hdir
    refine ⟨fun _ => .inr (.inl rfl), fun _ => ⟨_, _, ?_, hmakes⟩⟩
    exact mkRecursiveDir_of_isDirectory isReadOthers hdir
  | false =>
    rcases Nat.lt_or_eq_of_le hmax with hlt | heq
    · obtain ⟨handed, hhanded, hrun⟩ :=
        mkRecursiveDir_of_lt isReadOthers hdir hpos hlt
      refine ⟨fun _ => .inl hlt, fun _ => ⟨_, _, hrun, ?_⟩⟩
      apply makesPath_of_mkdirs _ _ hprefix fun p hp => hprefix p (hhanded p hp)
      intro hanswer
      exact FileSystem.mkdirs_made hanswer dir.bytes (self_mem_levels dir.bytes)
    · obtain ⟨handed, hhanded, hrun⟩ :=
        mkRecursiveDir_of_eq isReadOthers hdir heq
      cases hmade : (fs.mkdirs (dirMode isReadOthers) (parents dir.bytes) s).1 with
      | true =>
        -- all of the directories above are there, so the last turn reads behind the buffer
        rw [hrun, hmade, heq]
        simp
      | false =>
        rw [hmade] at hrun
        refine ⟨fun _ => .inr (.inr rfl), fun _ => ⟨_, _, hrun, ?_⟩⟩
        apply makesPath_of_mkdirs _ _ (fun p hp => hprefix p (List.mem_append_left _ hp))
          fun p hp => hprefix p (hhanded p hp)
        intro hanswer
        cases hanswer

/-! ### Two paths -/

/-- A file system of directories that go by one name each. -/
def flatFs : FileSystem (List Path) Path Path Mode where
  stat s p := if p ∈ s then some (.directory, p) else none
  mkdir s p _ := if p ∈ s then none else some (p :: s)
  directories s := {p | p ∈ s}
  mkdir_new := by
    intro s s' p m h
    by_cases hp : p ∈ s
    · simp [hp] at h
    · simp only [if_neg hp, Option.some.injEq] at h
      subst h
      refine ⟨p, by simp, hp, ?_⟩
      ext q
      simp
  stat_mkdir := by
    intro s s' p m h q file hq
    by_cases hp : p ∈ s
    · simp [hp] at h
    · simp only [if_neg hp, Option.some.injEq] at h
      subst h
      have hold : q ∈ s := by
        by_contra hno
        simp [hno] at hq
      simpa [hold] using hq

/-- In `/`, the path `/d`. -/
theorem mkRecursiveDir_sound_root :
    ∃ answer run, mkRecursiveDir flatFs (some ⟨[47, 100], by decide⟩) true [[47]]
        = .ok (answer, run) ∧ MakesPath flatFs [47, 100] [[47]] answer run :=
  (mkRecursiveDir_sound_iff flatFs ⟨[47, 100], by decide⟩ true [[47]] (by decide)
    (by decide)).mpr (.inl (by decide))

/-- A name of `PATH_MAX` bytes, none of them a separator. -/
def longName : Text where
  bytes := List.replicate pathMax 97
  zero_notMem := by
    rw [List.mem_replicate]
    rintro ⟨_, h⟩
    cases h

/-- The name passes the check of its length, and the only string that is handed on from the buffer
    does not end in it. -/
theorem mkRecursiveDir_overrun :
    longName.bytes.length = pathMax ∧
    mkRecursiveDir flatFs (some longName) true [] = .error .read ∧
    ¬ ∃ answer run, mkRecursiveDir flatFs (some longName) true [] = .ok (answer, run) ∧
      MakesPath flatFs longName.bytes [] answer run := by
  have hlength : longName.bytes.length = pathMax := List.length_replicate
  have hparents : parents longName.bytes = [] := by
    have hnone : ∀ i : ℕ, ¬ longName.bytes[i]? = some pathSeparator := by
      intro i hi
      have hmem : pathSeparator ∈ longName.bytes := List.mem_of_getElem? hi
      have heq : pathSeparator = 97 := (List.mem_replicate.mp hmem).2
      exact absurd heq (by decide)
    simp [parents, hnone]
  have hrun : mkRecursiveDir flatFs (some longName) true [] = .error .read := by
    have hdir : flatFs.isDirectory [] longName.bytes = false := rfl
    obtain ⟨handed, _, hrun⟩ := mkRecursiveDir_of_eq true hdir hlength
    rw [hrun, hparents]
    rfl
  refine ⟨hlength, hrun, ?_⟩
  rintro ⟨answer, run, hok, _⟩
  rw [hrun] at hok
  cases hok

end TimeService
