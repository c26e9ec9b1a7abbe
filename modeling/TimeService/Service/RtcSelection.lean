import TimeService.Lib.Decimal
import Mathlib.Data.Int.Notation
import Mathlib.Data.List.TakeWhile

namespace TimeService

/-!
# The wall-clock RTC

`TimeService::get_wall_clock_rtc_id` and `check_rtc`: the scan of `/sys/class/rtc` for the RTC whose
`hctosys` file reads 1.  The names are as `readdir` gives them; the files are those of the
directories of these names.

* `rtcSelection_iff`: the directories for which the scan gives the flagged RTC.
-/

/-- An `hctosys` file. -/
inductive HctosysFile
  | missing
  | reads (value : ℕ)
  | unparsable
deriving DecidableEq, Repr

/-- What `std::stoul` throws. -/
inductive StoulError
  | invalidArgument
  | outOfRange
deriving DecidableEq, Repr

/-- `isspace` in the C locale. -/
def isSpace (c : Char) : Bool := c.toNat = 32 ∨ (9 ≤ c.toNat ∧ c.toNat ≤ 13)

/-- `ULONG_MAX`. -/
def ulongMax : ℕ := 18446744073709551615

/-- The digits that `std::stoul` reads. -/
def stoulDigits (text : List Char) : Except StoulError ℕ :=
  match Decimal.read (text.takeWhile Char.isDigit) with
  | none => .error .invalidArgument
  | some n => if ulongMax < n then .error .outOfRange else .ok n

/-- `std::stoul`: white space, at most one sign and digits; what follows these is ignored, and a
    minus sign negates the number as an `unsigned long`. -/
def stoul (text : List Char) : Except StoulError ℕ :=
  match text.dropWhile isSpace with
  -- `strtoul` accepts a sign although the result has none
  | '-' :: text => (stoulDigits text).map fun n => (ulongMax + 1 - n) % (ulongMax + 1)
  | '+' :: text => stoulDigits text
  | text => stoulDigits text

/-- `name.substr(name.find("rtc") + 3)`, when `name` contains `rtc`. -/
def afterRtc : List Char → Option (List Char)
  | [] => none
  | c :: name =>
    if "rtc".toList.isPrefixOf (c :: name) then some ((c :: name).drop 3) else afterRtc name

/-- `rtc` with a number. -/
def rtcName (id : ℕ) : List Char := "rtc".toList ++ Nat.toDigits 10 id

/-- `TimeService::check_rtc`.  The value of the file is read and not looked at. -/
def checkRtc (hctosys : List Char → HctosysFile) (id : ℕ) : Bool := hctosys (rtcName id) ≠ .missing

/-- An `unsigned long` returned as an `int`. -/
def intOfUlong (n : ℕ) : ℤ := (n : ℤ).bmod 4294967296

/-- The loop of `get_wall_clock_rtc_id`. -/
def scanRtc (hctosys : List Char → HctosysFile) : List (List Char) → Except StoulError ℤ
  | [] => .ok (-1)
  | name :: names =>
    match afterRtc name with
    | none => scanRtc hctosys names
    | some rtcIdStr =>
      -- nothing catches what `std::stoul` throws
      match stoul rtcIdStr with
      | .error e => .error e
      | .ok id => if checkRtc hctosys id then .ok (intOfUlong id) else scanRtc hctosys names

/-- `TimeService::get_wall_clock_rtc_id`; `dir` is the directory, if it can be opened. -/
def getWallClockRtcId (dir : Option (List (List Char))) (hctosys : List Char → HctosysFile) :
    Except StoulError ℤ :=
  dir.elim (.ok (-1)) (scanRtc hctosys)

/-! ### The RTC that is wanted -/

/-- The number of a name that is `rtc` with a decimal number. -/
def rtcNumber (name : List Char) : Option ℕ :=
  if "rtc".toList.isPrefixOf name then Decimal.read (name.drop 3) else none

/-- Such a name, with an `hctosys` file that reads 1. -/
def flagged (hctosys : List Char → HctosysFile) (name : List Char) : Bool :=
  (rtcNumber name).isSome ∧ hctosys name = .reads 1

/-- The number of the first entry that is flagged. -/
def flaggedNumber (hctosys : List Char → HctosysFile) (names : List (List Char)) : Option ℕ :=
  (names.find? (flagged hctosys)).bind rtcNumber

/-- The wall-clock RTC, or -1. -/
def wallClockRtc (dir : Option (List (List Char))) (hctosys : List Char → HctosysFile) : ℤ :=
  (dir.bind (flaggedNumber hctosys)).elim (-1) fun n => n

/-- The scan ends at this entry: it contains `rtc`, and what follows is no number, or a number with
    an `hctosys` file. -/
def stopsScan (hctosys : List Char → HctosysFile) (name : List Char) : Bool :=
  (afterRtc name).any fun rtcIdStr => (stoul rtcIdStr).toOption.all (checkRtc hctosys)

/-- The condition on a directory: where the scan ends there is a number, and it is that of the first
    flagged entry, which is an `int`; without a flagged entry the scan runs through, or ends at a
    number that is -1 as an `int`. -/
def EndsAtFlagged (hctosys : List Char → HctosysFile) (names : List (List Char)) : Prop :=
  (names.find? (stopsScan hctosys)).elim (flaggedNumber hctosys names = none) fun name =>
    ∃ rtcIdStr id, afterRtc name = some rtcIdStr ∧ stoul rtcIdStr = .ok id ∧
      (flaggedNumber hctosys names).elim (id % 4294967296 = 4294967295) fun n =>
        n < 2147483648 ∧ id % 4294967296 = n

/-- The names of a directory that the kernel has made. -/
def KernelNames (names : List (List Char)) : Prop :=
  ∀ name ∈ names, afterRtc name = none ∨ ∃ n < 2147483648, name = rtcName n

/-- A name of the wanted shape, with an `hctosys` file. -/
def hasHctosys (hctosys : List Char → HctosysFile) (name : List Char) : Bool :=
  (rtcNumber name).isSome ∧ hctosys name ≠ .missing

/-! ### Numbers -/

/-- A number is read as such. -/
theorem stoul_of_read {text : List Char} {n : ℕ} (hread : Decimal.read text = some n)
    (hle : n ≤ ulongMax) : stoul text = .ok n := by
  obtain ⟨hne, hall, _⟩ := Decimal.read_eq_some_iff.mp hread
  obtain ⟨c, rest, rfl⟩ := List.exists_cons_of_ne_nil hne
  have hdigit : c.isDigit = true := by
    rw [List.all_cons, Bool.and_eq_true] at hall
    exact hall.1
  have hdrop : (c :: rest).dropWhile isSpace = c :: rest := by
    rw [List.dropWhile_cons_of_neg]
    simp only [Char.isDigit, Bool.and_eq_true, decide_eq_true_eq, UInt32.le_iff_toNat_le] at hdigit
    simp only [isSpace, decide_eq_true_eq, Char.toNat]
    have hzero : 48 ≤ c.val.toNat := hdigit.1
    omega
  have htake : (c :: rest).takeWhile Char.isDigit = c :: rest :=
    List.takeWhile_eq_self_iff.mpr (List.all_eq_true.mp hall)
  have hdigits : stoulDigits (c :: rest) = .ok n := by
    unfold stoulDigits
    rw [htake, hread]
    exact if_neg (by omega)
  unfold stoul
  rw [hdrop]
  split
  · rename_i heq
    obtain ⟨rfl, -⟩ := List.cons.inj heq
    exact absurd hdigit (by decide)
  · rename_i heq
    obtain ⟨rfl, -⟩ := List.cons.inj heq
    exact absurd hdigit (by decide)
  · exact hdigits

/-- A name that begins with `rtc`. -/
theorem afterRtc_append (text : List Char) : afterRtc ("rtc".toList ++ text) = some text := by
  have htext : "rtc".toList ++ text = 'r' :: 't' :: 'c' :: text := rfl
  rw [htext]
  simp [afterRtc]

theorem rtcNumber_append (text : List Char) :
    rtcNumber ("rtc".toList ++ text) = Decimal.read text := by
  have htext : "rtc".toList ++ text = 'r' :: 't' :: 'c' :: text := rfl
  rw [htext]
  simp [rtcNumber]

@[simp] theorem rtcNumber_rtcName (n : ℕ) : rtcNumber (rtcName n) = some n := by
  rw [rtcName, rtcNumber_append, Decimal.read_toDigits]

/-- A name of the wanted shape is `rtc` with a number. -/
theorem rtcNumber_eq_some {name : List Char} {n : ℕ} (h : rtcNumber name = some n) :
    ∃ text, name = "rtc".toList ++ text ∧ Decimal.read text = some n := by
  unfold rtcNumber at h
  split at h
  · rename_i hprefix
    obtain ⟨text, rfl⟩ := List.isPrefixOf_iff_prefix.mp hprefix
    exact ⟨text, rfl, h⟩
  · cases h

/-- Which `unsigned long` is returned as a number. -/
theorem intOfUlong_eq_iff (id n : ℕ) :
    intOfUlong id = n ↔ n < 2147483648 ∧ id % 4294967296 = n := by
  unfold intOfUlong Int.bmod
  simp only
  split <;> omega

theorem intOfUlong_eq_neg_one_iff (id : ℕ) :
    intOfUlong id = -1 ↔ id % 4294967296 = 4294967295 := by
  unfold intOfUlong Int.bmod
  simp only
  split <;> omega

/-! ### The scan -/

/-- The scan runs through, or it ends at the first entry that stops it. -/
theorem scanRtc_cases (hctosys : List Char → HctosysFile) (names : List (List Char)) :
    (names.find? (stopsScan hctosys) = none ∧ scanRtc hctosys names = .ok (-1)) ∨
    ∃ name rtcIdStr, names.find? (stopsScan hctosys) = some name ∧
      afterRtc name = some rtcIdStr ∧
      scanRtc hctosys names = (stoul rtcIdStr).map intOfUlong := by
  induction names with
  | nil => exact .inl ⟨rfl, rfl⟩
  | cons name names ih =>
    cases hafter : afterRtc name with
    | none =>
      have hpass : stopsScan hctosys name = false := by simp [stopsScan, hafter]
      have hscan : scanRtc hctosys (name :: names) = scanRtc hctosys names := by
        simp [scanRtc, hafter]
      rw [List.find?_cons_of_neg (by simp [hpass]), hscan]
      exact ih
    | some rtcIdStr =>
      cases hstoul : stoul rtcIdStr with
      | error e =>
        have hstop : stopsScan hctosys name = true := by
          simp [stopsScan, hafter, hstoul, Except.toOption]
        right
        refine ⟨name, rtcIdStr, List.find?_cons_of_pos hstop, hafter, ?_⟩
        rw [hstoul]
        simp [scanRtc, hafter, hstoul, Except.map]
      | ok id =>
        by_cases hcheck : checkRtc hctosys id = true
        · have hstop : stopsScan hctosys name = true := by
            simp [stopsScan, hafter, hstoul, Except.toOption, hcheck]
          right
          refine ⟨name, rtcIdStr, List.find?_cons_of_pos hstop, hafter, ?_⟩
          rw [hstoul]
          simp [scanRtc, hafter, hstoul, hcheck, Except.map]
        · have hpass : stopsScan hctosys name = false := by
            simp [stopsScan, hafter, hstoul, Except.toOption, hcheck]
          have hscan : scanRtc hctosys (name :: names) = scanRtc hctosys names := by
            simp [scanRtc, hafter, hstoul, hcheck]
          rw [List.find?_cons_of_neg (by simp [hpass]), hscan]
          exact ih

/-- What is wanted is -1 exactly when no entry is flagged. -/
theorem wallClockRtc_eq_neg_one_iff (hctosys : List Char → HctosysFile)
    (names : List (List Char)) :
    wallClockRtc (some names) hctosys = -1 ↔ flaggedNumber hctosys names = none := by
  show (flaggedNumber hctosys names).elim (-1) (fun n => (n : ℤ)) = -1 ↔ _
  cases flaggedNumber hctosys names with
  | none => exact iff_of_true rfl rfl
  | some n =>
    rw [Option.elim_some]
    simp

/-- **Where the scan ends.** -/
theorem scanRtc_eq_iff (hctosys : List Char → HctosysFile) (names : List (List Char)) :
    scanRtc hctosys names = .ok (wallClockRtc (some names) hctosys)
      ↔ EndsAtFlagged hctosys names := by
  unfold EndsAtFlagged
  rcases scanRtc_cases hctosys names with ⟨hnone, hscan⟩ | ⟨name, rtcIdStr, hsome, hafter, hscan⟩
  · rw [hnone, hscan, Option.elim_none, ← wallClockRtc_eq_neg_one_iff, Except.ok.injEq]
    exact eq_comm
  · rw [hsome, hscan, Option.elim_some]
    have hnumber (id : ℕ) : intOfUlong id = wallClockRtc (some names) hctosys ↔
        (flaggedNumber hctosys names).elim (id % 4294967296 = 4294967295) fun n =>
          n < 2147483648 ∧ id % 4294967296 = n := by
      show _ = (flaggedNumber hctosys names).elim (-1) (fun n => (n : ℤ)) ↔ _
      cases flaggedNumber hctosys names with
      | none => exact intOfUlong_eq_neg_one_iff id
      | some n => exact intOfUlong_eq_iff id n
    constructor
    · intro heq
      obtain ⟨id, hid, hint⟩ : ∃ id, stoul rtcIdStr = .ok id ∧
          intOfUlong id = wallClockRtc (some names) hctosys := by
        cases hstoul : stoul rtcIdStr with
        | error e =>
          rw [hstoul] at heq
          cases heq
        | ok id =>
          rw [hstoul] at heq
          exact ⟨id, rfl, Except.ok.inj heq⟩
      exact ⟨rtcIdStr, id, hafter, hid, (hnumber id).mp hint⟩
    · rintro ⟨str, id, hstr, hid, hright⟩
      obtain rfl : rtcIdStr = str := Option.some.inj (hafter.symm.trans hstr)
      rw [hid]
      exact congrArg Except.ok ((hnumber id).mpr hright)

/-! ### The kernel's directories -/

theorem stoul_toDigits {n : ℕ} (h : n < 2147483648) : stoul (Nat.toDigits 10 n) = .ok n := by
  refine stoul_of_read (Decimal.read_toDigits n) ?_
  show n ≤ 18446744073709551615
  omega

/-- An entry of the kernel's stops the scan exactly when it has an `hctosys` file. -/
theorem stopsScan_kernel {hctosys : List Char → HctosysFile} {name : List Char}
    (h : afterRtc name = none ∨ ∃ n < 2147483648, name = rtcName n) :
    stopsScan hctosys name = hasHctosys hctosys name := by
  rcases h with hno | ⟨n, hn, rfl⟩
  · have hnumber : rtcNumber name = none := by
      by_contra hsome
      obtain ⟨n, hn⟩ := Option.ne_none_iff_exists'.mp hsome
      obtain ⟨text, rfl, _⟩ := rtcNumber_eq_some hn
      rw [afterRtc_append] at hno
      cases hno
    simp [stopsScan, hasHctosys, hno, hnumber]
  · have hafter : afterRtc (rtcName n) = some (Nat.toDigits 10 n) := afterRtc_append _
    simp [stopsScan, hasHctosys, hafter, stoul_toDigits hn, Except.toOption, checkRtc]

/-- In the kernel's directories a name with a number is `rtc` and that number. -/
theorem KernelNames.eq_rtcName {names : List (List Char)} (h : KernelNames names)
    {name : List Char} (hname : name ∈ names) {n : ℕ} (hnumber : rtcNumber name = some n) :
    name = rtcName n ∧ n < 2147483648 := by
  rcases h name hname with hno | ⟨k, hk, rfl⟩
  · obtain ⟨text, rfl, _⟩ := rtcNumber_eq_some hnumber
    rw [afterRtc_append] at hno
    cases hno
  · rw [rtcNumber_rtcName] at hnumber
    obtain rfl := Option.some.inj hnumber
    exact ⟨rfl, hk⟩

/-- What is flagged has an `hctosys` file. -/
theorem hasHctosys_of_flagged {hctosys : List Char → HctosysFile} {name : List Char}
    (h : flagged hctosys name = true) : hasHctosys hctosys name = true := by
  simp only [flagged, hasHctosys, decide_eq_true_eq] at h ⊢
  refine ⟨h.1, ?_⟩
  rw [h.2]
  simp

/-- Without an `hctosys` file no entry is flagged. -/
theorem flaggedNumber_eq_none {hctosys : List Char → HctosysFile} {names : List (List Char)}
    (h : names.find? (hasHctosys hctosys) = none) : flaggedNumber hctosys names = none := by
  have hunflagged : names.find? (flagged hctosys) = none := by
    rw [List.find?_eq_none] at h ⊢
    exact fun name hname hflagged => h name hname (hasHctosys_of_flagged hflagged)
  rw [flaggedNumber, hunflagged, Option.bind_none]

/-- The first entry with an `hctosys` file is the first flagged one when its file reads 1. -/
theorem flaggedNumber_of_first {hctosys : List Char → HctosysFile} {names : List (List Char)}
    {n : ℕ} (h : names.find? (hasHctosys hctosys) = some (rtcName n))
    (hreads : hctosys (rtcName n) = .reads 1) : flaggedNumber hctosys names = some n := by
  obtain ⟨_, front, back, hnames, hfront⟩ := List.find?_eq_some_iff_append.mp h
  have hflagged : flagged hctosys (rtcName n) = true := by simp [flagged, hreads]
  have hfirst : names.find? (flagged hctosys) = some (rtcName n) := by
    refine List.find?_eq_some_iff_append.mpr ⟨hflagged, front, back, hnames, fun x hx => ?_⟩
    have hno := hfront x hx
    by_contra hyes
    rw [hasHctosys_of_flagged (by simpa using hyes)] at hno
    cases hno
  rw [flaggedNumber, hfirst, Option.bind_some, rtcNumber_rtcName]

/-- In the kernel's directories the number of the flagged entry tells its name. -/
theorem KernelNames.reads_of_flaggedNumber {hctosys : List Char → HctosysFile}
    {names : List (List Char)} (h : KernelNames names) {n : ℕ}
    (hnumber : flaggedNumber hctosys names = some n) : hctosys (rtcName n) = .reads 1 := by
  obtain ⟨name, hname, hn⟩ := Option.bind_eq_some_iff.mp hnumber
  have hflagged : flagged hctosys name = true := List.find?_some hname
  simp only [flagged, decide_eq_true_eq] at hflagged
  rw [← (h.eq_rtcName (List.mem_of_find?_eq_some hname) hn).1]
  exact hflagged.2

/-- The first entry with an `hctosys` file, in the kernel's directories. -/
theorem KernelNames.eq_rtcName_of_first {hctosys : List Char → HctosysFile}
    {names : List (List Char)} (h : KernelNames names) {name : List Char}
    (hfirst : names.find? (hasHctosys hctosys) = some name) :
    ∃ n < 2147483648, name = rtcName n := by
  have hhas : hasHctosys hctosys name = true := List.find?_some hfirst
  simp only [hasHctosys, decide_eq_true_eq] at hhas
  obtain ⟨n, hn⟩ := Option.isSome_iff_exists.mp hhas.1
  obtain ⟨hname, hlt⟩ := h.eq_rtcName (List.mem_of_find?_eq_some hfirst) hn
  exact ⟨n, hlt, hname⟩

/-- **The kernel's directories.** The scan gives the flagged RTC exactly when the first entry that
    has an `hctosys` file at all is flagged. -/
theorem endsAtFlagged_kernel_iff {hctosys : List Char → HctosysFile} {names : List (List Char)}
    (hkernel : KernelNames names) :
    EndsAtFlagged hctosys names ↔
      ∀ name, names.find? (hasHctosys hctosys) = some name → hctosys name = .reads 1 := by
  have hfind : names.find? (stopsScan hctosys) = names.find? (hasHctosys hctosys) := by
    rw [← List.head?_filter, ← List.head?_filter,
      List.filter_congr fun name hname => stopsScan_kernel (hkernel name hname)]
  unfold EndsAtFlagged
  rw [hfind]
  cases hfirst : names.find? (hasHctosys hctosys) with
  | none =>
    rw [Option.elim_none]
    exact iff_of_true (flaggedNumber_eq_none hfirst) fun name hname => by cases hname
  | some name =>
    obtain ⟨n, hlt, rfl⟩ := hkernel.eq_rtcName_of_first hfirst
    have hafter : afterRtc (rtcName n) = some (Nat.toDigits 10 n) := afterRtc_append _
    have hmod : n % 4294967296 = n := Nat.mod_eq_of_lt (by omega)
    rw [Option.elim_some]
    constructor
    · rintro ⟨rtcIdStr, id, hstr, hid, hright⟩ x hx
      obtain rfl := Option.some.inj hx
      obtain rfl : Nat.toDigits 10 n = rtcIdStr := Option.some.inj (hafter.symm.trans hstr)
      obtain rfl : n = id := Except.ok.inj ((stoul_toDigits hlt).symm.trans hid)
      rw [hmod] at hright
      -- the number where the scan ends is that of a flagged entry
      cases hnumber : flaggedNumber hctosys names with
      | none =>
        rw [hnumber, Option.elim_none] at hright
        omega
      | some k =>
        rw [hnumber, Option.elim_some] at hright
        rw [hright.2]
        exact hkernel.reads_of_flaggedNumber hnumber
    · intro hreads
      refine ⟨_, n, hafter, stoul_toDigits hlt, ?_⟩
      rw [flaggedNumber_of_first hfirst (hreads _ rfl), Option.elim_some]
      exact ⟨hlt, hmod⟩

/-- **The wall-clock RTC.** For every directory, with any names in any order, and all contents of
    the `hctosys` files: the scan throws nothing and gives the number of the first flagged entry,
    or -1, exactly when it ends at that number.  In the kernel's directories this is exactly when
    the first entry that has an `hctosys` file reads 1 there. -/
theorem rtcSelection_iff (hctosys : List Char → HctosysFile) :
    getWallClockRtcId none hctosys = .ok (wallClockRtc none hctosys) ∧
    ∀ names : List (List Char),
      (getWallClockRtcId (some names) hctosys = .ok (wallClockRtc (some names) hctosys)
        ↔ EndsAtFlagged hctosys names) ∧
      (KernelNames names →
        (getWallClockRtcId (some names) hctosys = .ok (wallClockRtc (some names) hctosys)
          ↔ ∀ name, names.find? (hasHctosys hctosys) = some name → hctosys name = .reads 1)) := by
  refine ⟨rfl, fun names => ?_⟩
  have hiff : getWallClockRtcId (some names) hctosys = .ok (wallClockRtc (some names) hctosys)
      ↔ EndsAtFlagged hctosys names := scanRtc_eq_iff hctosys names
  exact ⟨hiff, fun hkernel => hiff.trans (endsAtFlagged_kernel_iff hkernel)⟩

/-- Of two RTCs the second is the flagged one. -/
def secondFlagged (name : List Char) : HctosysFile :=
  if name = "rtc0".toList then .reads 0 else if name = "rtc1".toList then .reads 1 else .missing

/-- The scan gives the first RTC, which is not flagged; and an entry of another shape throws. -/
theorem rtcSelection_unflagged :
    getWallClockRtcId (some [".".toList, "rtc0".toList, "rtc1".toList]) secondFlagged = .ok 0 ∧
    wallClockRtc (some [".".toList, "rtc0".toList, "rtc1".toList]) secondFlagged = 1 ∧
    getWallClockRtcId (some ["rtc_cmos".toList, "rtc1".toList]) secondFlagged
      = .error .invalidArgument := by
  refine ⟨?_, ?_, ?_⟩
  · decide +kernel
  · decide +kernel
  · decide +kernel

end TimeService
