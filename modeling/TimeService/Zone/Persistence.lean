import TimeService.Lib.Transition
import TimeService.Zone.TimeZoneInfo

namespace TimeService

open Transition

/-!
# The timezone over restarts

Runs of `SetTimezone` calls, process restarts and `Init`, with every call on the environment and on
the file system succeeding or failing each time.

* `persisted_timezone`: a refused call changes nothing and `TZ` always agrees with the current id,
  in every run; the id last accepted is the one `Init` restores, in every run whose accepted calls
  bring the whole text to the file.
-/

/-- The service over its runs.  `accepted` is the id of the last `SetTimezone` that answered true;
    the service itself does not keep it. -/
structure ZoneRun where
  info : TimeZoneInfo
  accepted : Option String
deriving DecidableEq

/-- What happens to the service. -/
inductive ZoneAction
  | setTimezone (timezoneId : String) (setenvOk : Bool) (save : SaveOutcome)
  | restart (inherited : Option String)
  | init (directoryOk openOk setenvOk : Bool)

variable (json : JsonCodec)

/-- One step of a run. -/
def ZoneRun.step (s : ZoneRun) : ZoneAction → Option ZoneRun
  | .setTimezone timezoneId setenvOk save =>
    let result := s.info.setTimezone json timezoneId setenvOk save
    some ⟨result.2, if result.1 then some timezoneId else s.accepted⟩
  | .restart inherited => some ⟨s.info.restart inherited, s.accepted⟩
  | .init directoryOk openOk setenvOk =>
    some ⟨s.info.init json directoryOk openOk setenvOk, s.accepted⟩

/-- The first process, before its `Init`: nothing is known of `TZ` and of the file. -/
def ZoneRun.start (tz : Option String) (file : Option (List Char)) : ZoneRun :=
  ⟨⟨"", tz, file⟩, none⟩

/-- The whole text has reached the file. -/
def SaveOutcome.Complete (timezoneId : String) : SaveOutcome → Prop
  | .notOpened => False
  | .written count => (json.writeString timezoneId).length ≤ count

/-- The steps at which the file system and the environment serve the zone: a `SetTimezone` that gets
    as far as the file writes all of it, and an `Init` finds its directory, its file and `setenv`
    working. -/
def Served (_ : ZoneRun) : ZoneAction → Prop
  | .setTimezone timezoneId setenvOk save =>
    (getOffsetById timezoneId).isSome → setenvOk = true → save.Complete json timezoneId
  | .restart _ => True
  | .init directoryOk openOk setenvOk => directoryOk = true ∧ openOk = true ∧ setenvOk = true

/-- The next `Init` restores the id that was accepted last, with its offset. -/
def ZoneRun.Restores (s : ZoneRun) : Prop :=
  ∀ timezoneId, s.accepted = some timezoneId → ∀ directoryOk openOk setenvOk,
    Served json s (.init directoryOk openOk setenvOk) →
    (s.info.init json directoryOk openOk setenvOk).curTimezoneId = timezoneId ∧
    ∃ offset, getOffsetById timezoneId = some offset ∧
      (s.info.init json directoryOk openOk setenvOk).tz = some (tzSetting offset)

/-- A `SetTimezone` that answers false leaves the id, `TZ` and the file as they are. -/
def ZoneRun.Refuses (s : ZoneRun) : Prop :=
  ∀ timezoneId setenvOk save, (s.info.setTimezone json timezoneId setenvOk save).1 = false →
    (s.info.setTimezone json timezoneId setenvOk save).2 = s.info

/-- `TZ` is the table's offset of the current id, if there is one. -/
def TimeZoneInfo.Agrees (z : TimeZoneInfo) : Prop :=
  z.curTimezoneId ≠ "" →
    ∃ offset, getOffsetById z.curTimezoneId = some offset ∧ z.tz = some (tzSetting offset)

/-- The id accepted last is supported, and the file holds all of its text. -/
def ZoneRun.Stored (s : ZoneRun) : Prop :=
  ∀ timezoneId, s.accepted = some timezoneId →
    (getOffsetById timezoneId).isSome ∧ s.info.file = some (json.writeString timezoneId)

variable {json}

theorem TimeZoneInfo.Agrees.step {s s' : ZoneRun} {a : ZoneAction} (h : s.info.Agrees)
    (hstep : s.step json a = some s') : s'.info.Agrees := by
  cases a with
  | setTimezone timezoneId setenvOk save =>
    cases hstep
    show (s.info.setTimezone json timezoneId setenvOk save).2.Agrees
    rcases s.info.setTimezone_cases timezoneId setenvOk save with
      ⟨_, hsame⟩ | ⟨offset, hoffset, _, hset⟩
    · rw [hsame]
      exact h
    · rw [hset]
      exact fun _ => ⟨offset, hoffset, rfl⟩
  | restart inherited =>
    cases hstep
    -- the new process has no current id yet
    exact fun hne => (hne rfl).elim
  | init directoryOk openOk setenvOk =>
    cases hstep
    show (s.info.init json directoryOk openOk setenvOk).Agrees
    rcases s.info.init_cases directoryOk openOk setenvOk with hsame | ⟨_, offset, _, hoffset, hinit⟩
    · rw [hsame]
      exact h
    · rw [hinit]
      exact fun _ => ⟨offset, hoffset, rfl⟩

/-- The file after `Init` is the one before it. -/
theorem TimeZoneInfo.init_file (z : TimeZoneInfo) (directoryOk openOk setenvOk : Bool) :
    (z.init json directoryOk openOk setenvOk).file = z.file := by
  rcases z.init_cases directoryOk openOk setenvOk with hsame | ⟨_, _, _, _, hinit⟩
  · rw [hsame]
  · rw [hinit]

theorem SaveOutcome.Complete.file {save : SaveOutcome} {timezoneId : String}
    (h : save.Complete json timezoneId) (z : TimeZoneInfo) :
    (z.saveTimezoneToFile json timezoneId save).2.file = some (json.writeString timezoneId) := by
  cases save with
  | notOpened => exact h.elim
  | written count =>
    show some ((json.writeString timezoneId).take count) = _
    rw [List.take_of_length_le h]

theorem ZoneRun.Stored.step {s s' : ZoneRun} {a : ZoneAction} (h : s.Stored json)
    (hserved : Served json s a) (hstep : s.step json a = some s') : s'.Stored json := by
  cases a with
  | setTimezone timezoneId setenvOk save =>
    cases hstep
    intro id hid
    have haccepted : (if (s.info.setTimezone json timezoneId setenvOk save).1
        then some timezoneId else s.accepted) = some id := hid
    show _ ∧ (s.info.setTimezone json timezoneId setenvOk save).2.file = _
    rcases s.info.setTimezone_cases timezoneId setenvOk save with
      ⟨hfalse, hsame⟩ | ⟨offset, hoffset, hsetenv, hset⟩
    · rw [hfalse] at haccepted
      rw [hsame]
      exact h id haccepted
    · rw [hset] at haccepted ⊢
      cases haccepted
      have hsome : (getOffsetById timezoneId).isSome := by
        rw [hoffset]
        rfl
      exact ⟨hsome, (hserved hsome hsetenv).file s.info⟩
  | restart inherited =>
    cases hstep
    exact h
  | init directoryOk openOk setenvOk =>
    cases hstep
    intro id hid
    show _ ∧ (s.info.init json directoryOk openOk setenvOk).file = _
    rw [TimeZoneInfo.init_file]
    exact h id hid

/-- What is stored is what `Init` restores. -/
theorem ZoneRun.Stored.restores {s : ZoneRun} (h : s.Stored json)
    (hjson : ∀ id, (getOffsetById id).isSome →
      json.parseFromStream (json.writeString id) = some id) : s.Restores json := by
  rintro timezoneId haccepted directoryOk openOk setenvOk ⟨rfl, rfl, rfl⟩
  obtain ⟨hsome, hfile⟩ := h timezoneId haccepted
  obtain ⟨offset, hoffset⟩ := Option.isSome_iff_exists.mp hsome
  rw [TimeZoneInfo.init_of_file hfile (hjson timezoneId hsome) hoffset]
  exact ⟨rfl, offset, hoffset, rfl⟩

/-- **The persisted timezone.** Whatever `TZ` and the file are at first: in every run a refused
    `SetTimezone` changes nothing and `TZ` agrees with the current id; and in every run in which
    each accepted call brings its whole text to the file, the next `Init` restores the id
    accepted last. -/
theorem persisted_timezone
    (hjson : ∀ id, (getOffsetById id).isSome →
      json.parseFromStream (json.writeString id) = some id)
    (tz : Option String) (file : Option (List Char)) :
    (∀ s, Reaches (ZoneRun.step json) (fun _ _ => True) (.start tz file) s →
      s.Refuses json ∧ s.info.Agrees) ∧
    (∀ s, Reaches (ZoneRun.step json) (Served json) (.start tz file) s → s.Restores json) := by
  constructor
  · intro s h
    refine ⟨fun timezoneId setenvOk save hfalse => ?_, ?_⟩
    · rcases s.info.setTimezone_cases timezoneId setenvOk save with ⟨_, hsame⟩ | ⟨_, _, _, hset⟩
      · exact hsame
      · rw [hset] at hfalse
        cases hfalse
    · exact @Reaches.invariant _ _ _ _ _ _ (fun t => t.info.Agrees) h
        (fun _ _ _ ht _ hstep => ht.step hstep) (fun hne => (hne rfl).elim)
  · intro s h
    apply ZoneRun.Stored.restores _ hjson
    apply h.invariant (fun _ _ _ ht hserved hstep => ht.step hserved hstep)
    intro _ hnone
    cases hnone

/-! ### A call whose text does not reach the file -/

/-- What stands before and behind the id in the text that JsonCpp writes. -/
def jsonHead : List Char := "\x7b\n\t\"TimezoneId\" : \"".toList

def jsonTail : List Char := "\"\n\x7d".toList

/-- The text that JsonCpp writes for an id, and the id of a text of that form. -/
def timezoneJson : JsonCodec where
  writeString timezoneId := jsonHead ++ timezoneId.toList ++ jsonTail
  parseFromStream text :=
    let value := text.drop jsonHead.length
    if jsonHead <+: text ∧ jsonTail <:+ value
    then some (String.ofList (value.take (value.length - jsonTail.length))) else none

theorem timezoneJson_parse (timezoneId : String) :
    timezoneJson.parseFromStream (timezoneJson.writeString timezoneId) = some timezoneId := by
  have hdrop : (timezoneJson.writeString timezoneId).drop jsonHead.length
      = timezoneId.toList ++ jsonTail := by
    show (jsonHead ++ timezoneId.toList ++ jsonTail).drop jsonHead.length = _
    rw [List.append_assoc, List.drop_left]
  have hhead : jsonHead <+: timezoneJson.writeString timezoneId := by
    show jsonHead <+: jsonHead ++ timezoneId.toList ++ jsonTail
    rw [List.append_assoc]
    exact List.prefix_append _ _
  have hvalue : (timezoneId.toList ++ jsonTail).take
      ((timezoneId.toList ++ jsonTail).length - jsonTail.length) = timezoneId.toList := by
    rw [List.length_append, Nat.add_sub_cancel, List.take_left]
  simp only [timezoneJson] at hdrop hhead ⊢
  rw [hdrop, if_pos ⟨hhead, List.suffix_append _ _⟩, hvalue, String.ofList_toList]

/-- A file that cannot be opened: Berlin is accepted, and after a restart the zone is Shanghai. -/
theorem timezone_lost :
    ∃ s, Reaches (ZoneRun.step timezoneJson) (fun _ _ => True) (.start none none) s ∧
      ¬ s.Restores timezoneJson := by
  let s : ZoneRun := ⟨⟨"Europe/Berlin", some "UTC-2", none⟩, some "Europe/Berlin"⟩
  have hs : (ZoneRun.start none none).step timezoneJson
      (.setTimezone "Europe/Berlin" true .notOpened) = some s := by decide +kernel
  refine ⟨s, Reaches.refl.tail trivial hs, fun hrestores => ?_⟩
  have hinit := (hrestores "Europe/Berlin" rfl true true true ⟨rfl, rfl, rfl⟩).1
  have hshanghai : (s.info.init timezoneJson true true true).curTimezoneId = "Asia/Shanghai" := by
    decide +kernel
  rw [hshanghai] at hinit
  exact absurd hinit (by decide)

/-- Berlin is accepted with its text in the file: after a restart it is restored. -/
theorem persisted_timezone_berlin :
    ∃ s : ZoneRun, s.accepted = some "Europe/Berlin" ∧ s.info.curTimezoneId = "" ∧
      s.Restores timezoneJson := by
  let t : ZoneRun :=
    ⟨⟨"Europe/Berlin", some "UTC-2", some (timezoneJson.writeString "Europe/Berlin")⟩,
      some "Europe/Berlin"⟩
  let s : ZoneRun := ⟨t.info.restart none, t.accepted⟩
  have ht : (ZoneRun.start none none).step timezoneJson
      (.setTimezone "Europe/Berlin" true (.written 100)) = some t := by decide +kernel
  have hcomplete : (SaveOutcome.written 100).Complete timezoneJson "Europe/Berlin" := by
    show (timezoneJson.writeString "Europe/Berlin").length ≤ 100
    decide +kernel
  have hreach : Reaches (ZoneRun.step timezoneJson) (Served timezoneJson) (.start none none) s :=
    (Reaches.refl.tail (fun _ _ => hcomplete) ht).tail
      (a := .restart none) trivial rfl
  exact ⟨s, rfl, rfl,
    (persisted_timezone (fun id _ => timezoneJson_parse id) none none).2 s hreach⟩

end TimeService
