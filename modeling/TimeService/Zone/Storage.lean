import TimeService.Utils.FileUtils
import TimeService.Zone.TimeZoneInfo

namespace TimeService

open CString

/-!
# The directory of the timezone file

`TimeZoneInfo::InitStorage` over a file system.  `TimeZoneInfo.initStorage` takes whether the
directory is there or can be made as an argument; here this is what `MkRecursiveDir` finds.
-/

/-- `TIMEZONE_FILE_PATH`. -/
def timezoneFilePath : Path :=
  "/data/misc/zoneinfo/timezone.json".toList.map fun c => UInt8.ofNat c.toNat

/-- The `dir` of `InitStorage`. -/
def timezoneDir : Text where
  bytes := getPathDir timezoneFilePath
  zero_notMem := by decide

example : timezoneDir.bytes
    = "/data/misc/zoneinfo/".toList.map fun c => UInt8.ofNat c.toNat := by decide

variable {σ ι : Type*} (fs : FileSystem σ Path ι Mode)

/-- `TimeZoneInfo::InitStorage`. -/
def initStorage (s : σ) : Except BufferFault (Bool × σ) :=
  if isExistFile fs s timezoneFilePath then .ok (true, s)
  else if timezoneDir.bytes = [] then .ok (false, s)
  else
    let exist := isExistDir fs ⟨s, []⟩ timezoneDir.bytes
    if exist.1 then .ok (true, s)
    else
      match mkRecursiveDir fs (some timezoneDir) true s with
      | .error fault => .error fault
      | .ok (made, run) => if !made then .ok (false, run.state) else .ok (true, run.state)

/-- The directory is there, or all that is missing of it can be made. -/
def directoryOk (s : σ) : Bool :=
  fs.isDirectory s timezoneDir.bytes || (fs.mkdirs (dirMode true) (levels timezoneDir.bytes) s).1

variable {fs}

/-- `InitStorage` never reads behind the buffer, and answers as it does with the outcome of the
    directories given.  When the answer is true and there is no file, there is its directory. -/
theorem initStorage_eq (z : TimeZoneInfo) (s : σ)
    (hfile : z.file.isSome = isExistFile fs s timezoneFilePath) :
    ∃ s', initStorage fs s = .ok (z.initStorage (directoryOk fs s), s') ∧
      (z.initStorage (directoryOk fs s) = true →
        z.file.isSome = true ∨ fs.isDirectory s' timezoneDir.bytes = true) := by
  have hne : timezoneDir.bytes ≠ [] := by decide
  unfold initStorage TimeZoneInfo.initStorage
  cases hexist : isExistFile fs s timezoneFilePath with
  | true =>
    refine ⟨s, ?_, fun _ => .inl (hfile.trans hexist)⟩
    simp [hfile, hexist]
  | false =>
    cases hdir : fs.isDirectory s timezoneDir.bytes with
    | true =>
      refine ⟨s, ?_, fun _ => .inr hdir⟩
      simp [hfile, hexist, hne, isExistDir, hdir, directoryOk]
    | false =>
      obtain ⟨handed, _, hrun⟩ := mkRecursiveDir_of_lt true hdir (by decide) (by decide)
      have hready : directoryOk fs s
          = (fs.mkdirs (dirMode true) (levels timezoneDir.bytes) s).1 := by
        simp [directoryOk, hdir]
      have hanswer : (z.file.isSome || directoryOk fs s)
          = (fs.mkdirs (dirMode true) (levels timezoneDir.bytes) s).1 := by
        rw [hfile, hexist, Bool.false_or, hready]
      refine ⟨(fs.mkdirs (dirMode true) (levels timezoneDir.bytes) s).2, ?_, ?_⟩
      · rw [hanswer]
        simp only [isExistDir, hdir, hrun, if_neg hne, Bool.false_eq_true, if_false]
        cases (fs.mkdirs (dirMode true) (levels timezoneDir.bytes) s).1 with
        | true => rfl
        | false => rfl
      · intro hok
        rw [hanswer] at hok
        exact .inr (FileSystem.mkdirs_made hok timezoneDir.bytes (self_mem_levels _))

end TimeService
