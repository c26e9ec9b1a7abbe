import Mathlib.Data.Int.Notation
import Mathlib.Data.List.Basic

namespace TimeService

/-!
# The timezone service

`time_zone_info.h` and `time_zone_info.cpp`: the table of supported zones, the zone in use, the
`TZ` variable of the process, and the file in which the zone is kept over a restart.

JsonCpp is not part of the repository: writing an id as a JSON text and reading it back is the
parameter `JsonCodec`.  The calls on the environment and on the file system may fail each time;
their outcomes are arguments of the operations.
-/

/-! ### The table -/

/-- `timezoneList` of the constructor: the id and `utcOffsetHours` of each entry. -/
def timezoneList : List (String × ℤ) :=
  [("Antarctica/McMurdo", 12), ("America/Argentina/Buenos_Aires", -3), ("Australia/Sydney", 10),
   ("America/Noronha", -2), ("America/St_Johns", -3), ("Africa/Kinshasa", 1),
   ("America/Santiago", -3), ("Asia/Shanghai", 8), ("Asia/Nicosia", 3), ("Europe/Berlin", 2),
   ("America/Guayaquil", -5), ("Europe/Madrid", 2), ("Pacific/Pohnpei", 11),
   ("America/Godthab", -2), ("Asia/Jakarta", 7), ("Pacific/Tarawa", 12), ("Asia/Almaty", 6),
   ("Pacific/Majuro", 12), ("Asia/Ulaanbaatar", 8), ("America/Mexico_City", -5),
   ("Asia/Kuala_Lumpur", 8), ("Pacific/Auckland", 12), ("Pacific/Tahiti", -10),
   ("Pacific/Port_Moresby", 10), ("Asia/Gaza", 3), ("Europe/Lisbon", 1), ("Europe/Moscow", 3),
   ("Europe/Kiev", 3), ("Pacific/Wake", 12), ("America/New_York", -4), ("Asia/Tashkent", 5)]

/-- No id stands in the list twice, so the map that the constructor fills is the list. -/
theorem timezoneList_nodup : (timezoneList.map Prod.fst).Nodup := by decide +kernel

/-- `TimeZoneInfo::GetOffsetById`. -/
def getOffsetById (timezoneId : String) : Option ℤ := timezoneList.lookup timezoneId

/-- The offset found is one of the table. -/
theorem getOffsetById_mem {timezoneId : String} {offset : ℤ}
    (h : getOffsetById timezoneId = some offset) : (timezoneId, offset) ∈ timezoneList := by
  obtain ⟨l₁, l₂, hsplit, _⟩ := List.lookup_eq_some_iff.mp h
  rw [hsplit]
  simp

/-- `TimeZoneInfo::GetCurrentOffsetMs`, with `curTimezoneId_` as an argument. -/
def getCurrentOffsetMs (curTimezoneId : String) : ℤ :=
  (getOffsetById curTimezoneId).getD 0 * 3600000

/-- The text that `SetOffsetToKernel` puts into `TZ`. -/
def tzSetting (offsetHour : ℤ) : String := "UTC-" ++ toString offsetHour

/-! ### The zone in use -/

/-- `TimeZoneInfo` with what it writes: the variable `TZ` of the process and the file
    `/data/misc/zoneinfo/timezone.json`. -/
structure TimeZoneInfo where
  curTimezoneId : String
  tz : Option String
  file : Option (List Char)
deriving DecidableEq

/-- What JsonCpp is used for: an object whose only member is `TimezoneId` as a text, and the value
    of that member of a text that parses. -/
structure JsonCodec where
  writeString : String → List Char
  parseFromStream : List Char → Option String

/-- How far `SaveTimezoneToFile` gets: the file is not opened, or it is opened (and so emptied) and
    that many characters reach it before a write or the closing fails. -/
inductive SaveOutcome
  | notOpened
  | written (count : ℕ)
deriving DecidableEq, Repr

variable (json : JsonCodec)

/-- `TimeZoneInfo::SetOffsetToKernel`. -/
def TimeZoneInfo.setOffsetToKernel (z : TimeZoneInfo) (offsetHour : ℤ) (setenvOk : Bool) :
    Bool × TimeZoneInfo :=
  if setenvOk then (true, { z with tz := some (tzSetting offsetHour) }) else (false, z)

/-- `TimeZoneInfo::SaveTimezoneToFile`: the answer is true whatever happens to the file. -/
def TimeZoneInfo.saveTimezoneToFile (z : TimeZoneInfo) (timezoneId : String) :
    SaveOutcome → Bool × TimeZoneInfo
  | .notOpened => (true, z)
  | .written count => (true, { z with file := some ((json.writeString timezoneId).take count) })

/-- `TimeZoneInfo::SetTimezone`. -/
def TimeZoneInfo.setTimezone (z : TimeZoneInfo) (timezoneId : String) (setenvOk : Bool)
    (save : SaveOutcome) : Bool × TimeZoneInfo :=
  match getOffsetById timezoneId with
  | none => (false, z)
  | some gmtOffset =>
    let kernel := z.setOffsetToKernel gmtOffset setenvOk
    if !kernel.1 then (false, kernel.2) else
    let saved := kernel.2.saveTimezoneToFile json timezoneId save
    if !saved.1 then (false, saved.2) else
    (true, { saved.2 with curTimezoneId := timezoneId })

/-- `TimeZoneInfo::InitStorage`.  Without a file its directory has to be there or to be made. -/
def TimeZoneInfo.initStorage (z : TimeZoneInfo) (directoryOk : Bool) : Bool :=
  z.file.isSome || directoryOk

/-- `TimeZoneInfo::GetTimezoneFromFile`.  A file that is missing or not opened reads as an empty
    text, which is no JSON value. -/
def TimeZoneInfo.getTimezoneFromFile (z : TimeZoneInfo) (openOk : Bool) : Option String :=
  if openOk then z.file.bind json.parseFromStream else none

/-- `TimeZoneInfo::Init`. -/
def TimeZoneInfo.init (z : TimeZoneInfo) (directoryOk openOk setenvOk : Bool) : TimeZoneInfo :=
  if !z.initStorage directoryOk then z else
  let timezoneId := (z.getTimezoneFromFile json openOk).getD "Asia/Shanghai"
  match getOffsetById timezoneId with
  | none => z
  | some gmtOffset =>
    let kernel := z.setOffsetToKernel gmtOffset setenvOk
    if !kernel.1 then kernel.2 else { kernel.2 with curTimezoneId := timezoneId }

/-- A new process: the members are as constructed and `TZ` is what the process inherits. -/
def TimeZoneInfo.restart (z : TimeZoneInfo) (inherited : Option String) : TimeZoneInfo :=
  { z with curTimezoneId := "", tz := inherited }

/-! ### What the operations do -/

variable {json}

/-- **Cases of `SetTimezone`.** It is refused and changes nothing, or it sets all of the zone. -/
theorem TimeZoneInfo.setTimezone_cases (z : TimeZoneInfo) (timezoneId : String) (setenvOk : Bool)
    (save : SaveOutcome) :
    ((z.setTimezone json timezoneId setenvOk save).1 = false ∧
      (z.setTimezone json timezoneId setenvOk save).2 = z) ∨
    ∃ offset, getOffsetById timezoneId = some offset ∧ setenvOk = true ∧
      z.setTimezone json timezoneId setenvOk save
        = (true, ⟨timezoneId, some (tzSetting offset),
            (z.saveTimezoneToFile json timezoneId save).2.file⟩) := by
  unfold TimeZoneInfo.setTimezone
  cases hoffset : getOffsetById timezoneId with
  | none => exact .inl ⟨rfl, rfl⟩
  | some offset =>
    cases setenvOk with
    | false => exact .inl ⟨rfl, rfl⟩
    | true =>
      right
      refine ⟨offset, rfl, rfl, ?_⟩
      cases save <;> rfl

/-- **Cases of `Init`.** It gives up and changes nothing, or it takes over the id that it has read,
    Shanghai when nothing can be read. -/
theorem TimeZoneInfo.init_cases (z : TimeZoneInfo) (directoryOk openOk setenvOk : Bool) :
    z.init json directoryOk openOk setenvOk = z ∨
    ∃ timezoneId offset,
      timezoneId = (z.getTimezoneFromFile json openOk).getD "Asia/Shanghai" ∧
      getOffsetById timezoneId = some offset ∧
      z.init json directoryOk openOk setenvOk = ⟨timezoneId, some (tzSetting offset), z.file⟩ := by
  unfold TimeZoneInfo.init
  cases z.initStorage directoryOk with
  | false => exact .inl rfl
  | true =>
    simp only [Bool.not_true, Bool.false_eq_true, if_false]
    cases hoffset : getOffsetById ((z.getTimezoneFromFile json openOk).getD "Asia/Shanghai") with
    | none => exact .inl rfl
    | some offset =>
      cases setenvOk with
      | false => exact .inl rfl
      | true => exact .inr ⟨_, offset, rfl, hoffset, rfl⟩

/-- `Init` with a file that holds a supported id, when no call on the system fails. -/
theorem TimeZoneInfo.init_of_file {z : TimeZoneInfo} {text : List Char} {timezoneId : String}
    {offset : ℤ} (hfile : z.file = some text) (hparse : json.parseFromStream text = some timezoneId)
    (hoffset : getOffsetById timezoneId = some offset) (directoryOk : Bool) :
    z.init json directoryOk true true = ⟨timezoneId, some (tzSetting offset), z.file⟩ := by
  have hstorage : z.initStorage directoryOk = true := by
    rw [TimeZoneInfo.initStorage, hfile]
    rfl
  have hread : z.getTimezoneFromFile json true = some timezoneId := by
    show z.file.bind json.parseFromStream = some timezoneId
    rw [hfile, Option.bind_some, hparse]
  unfold TimeZoneInfo.init
  simp only [hstorage, hread, Option.getD_some, hoffset]
  rfl

end TimeService
