import TimeService.Timer.WallClock
import TimeService.Timer.Window

namespace TimeService

open Transition

/-!
# Rebatching

`ReBatchAllTimersLocked` computes every pending alarm anew, from its original time and its window
length.  While the clocks run together that should change nothing.

`Dated` is the manager with its wall clock and the history of the settings: each alarm that has been
pending, with the difference of the clocks that it was set with.  A re-armed alarm has the setting
of the one it was re-armed from, a rebatch sets all alarms anew.

* `rebatch_keeps_schedule`: in runs that start no timer for less than the minimum futurity ahead and
  whose passes trigger only alarms that are re-armed in their window, a rebatch at any time leaves
  exactly the alarms whose time has not passed, unchanged, as long as the difference of the clocks
  is the one they were set with;
* `rebatch_moves_alarm`: an alarm that was raised to the minimum futurity goes back to its time.
-/

/-- The manager and the settings so far.  `calling` is the difference of the clocks with which the
    `StartTimer` under way has converted its trigger time. -/
structure Dated where
  clocked : Clocked
  calling : ℤ
  settings : List (TimerInfo × ℤ)

def Dated.init (bootTime wallOffset : ℤ) : Dated where
  clocked := Clocked.init bootTime wallOffset
  calling := wallOffset
  settings := []

/-- The alarms that are pending now. -/
def Dated.pending (d : Dated) : List TimerInfo :=
  TimeService.pending d.clocked.system.schedule.alarmBatches

/-- The settings of the alarms that may be re-armed from alarms with given ones. -/
def inheritSettings (settings : List (TimerInfo × ℤ)) (after : List TimerInfo) :
    List (TimerInfo × ℤ) :=
  after.flatMap fun a => (settings.filter fun x => a.follows x.1).map fun x => (a, x.2)

/-- The history after an action that has led to `w'`. -/
def Dated.after (d : Dated) (w' : Clocked) : ClockedAction → Dated
  | .act (.startTimer ..) => { d with clocked := w', calling := d.clocked.wallOffset }
  | .act .setHandlerLocked =>
    match d.clocked.system.entryCall with
    | some (.setHandlerLocked alarm) =>
      { d with clocked := w', settings := (alarm, d.calling) :: d.settings }
    | _ => { d with clocked := w' }
  | .act (.removeHandler _) =>
    if d.clocked.system.removalRebatches then
      { d with
        clocked := w'
        settings := (TimeService.pending w'.system.schedule.alarmBatches).map fun a =>
          (a, d.clocked.wallOffset) }
    else { d with clocked := w' }
  | .act (.timeChange _) =>
    if d.clocked.system.rebatches then
      { d with
        clocked := w'
        settings := (TimeService.pending w'.system.schedule.alarmBatches).map fun a =>
          (a, d.clocked.wallOffset) }
    else { d with clocked := w' }
  | .act (.pass _) =>
    { d with
      clocked := w'
      settings :=
        inheritSettings d.settings (TimeService.pending w'.system.schedule.alarmBatches) }
  | _ => { d with clocked := w' }

/-- One step: the history restricts nothing. -/
def Dated.step (d : Dated) (a : ClockedAction) : Option Dated :=
  (d.clocked.step a).map fun w' => d.after w' a

/-- The states of the guarded runs from a new manager. -/
def DatedReachable (ok : Dated → ClockedAction → Prop) (d : Dated) : Prop :=
  ∃ bootTime wallOffset, 0 < bootTime ∧ Reaches Dated.step ok (Dated.init bootTime wallOffset) d

/-- Every pending alarm was set with the difference of the clocks that there is now. -/
def Dated.ClocksKept (d : Dated) : Prop :=
  ∀ a ∈ d.pending, (a, d.clocked.wallOffset) ∈ d.settings

/-- A timer is started for the minimum futurity ahead or more, or refused; and a pass triggers only
    alarms that are re-armed in their window. -/
def SetsForGood (d : Dated) : ClockedAction → Prop
  | .act (.startTimer timerNumber triggerTime isSystemUid _) => ∀ entry,
      d.clocked.system.timerEntryMap.lookup timerNumber = some entry →
      d.clocked.now.boot ≤
        convertToElapsed d.clocked.now (milliseconds triggerTime) entry.type →
      minTrigger (isSystemUid entry.uid) d.clocked.now.boot
        ≤ convertToElapsed d.clocked.now (milliseconds triggerTime) entry.type
  | .act (.pass triggerList) => ∀ a ∈ triggerList, a.RearmsInWindow
  | _ => True

/-! ### Converted times -/

/-- The alarm goes off at its time, converted with this difference of the clocks. -/
def TimerInfo.SetWith (wallOffset : ℤ) (a : TimerInfo) : Prop :=
  a.whenElapsed = convertToElapsed ⟨0, wallOffset⟩ a.when a.type

/-- A conversion depends on the difference of the clocks alone. -/
theorem convertToElapsed_of_offset (boot wallOffset when type : ℤ) :
    convertToElapsed ⟨boot, boot + wallOffset⟩ when type
      = convertToElapsed ⟨0, wallOffset⟩ when type := by
  unfold convertToElapsed
  split
  · show boot + (msToNs when - (boot + wallOffset)) = 0 + (msToNs when - wallOffset)
    ring
  · show boot + (msToNs when - boot) = 0 + (msToNs when - 0)
    ring

/-- Re-arming keeps the difference of the clocks. -/
theorem TimerInfo.SetWith.of_follows {wallOffset : ℤ} {a x : TimerInfo}
    (hx : x.SetWith wallOffset) (h : a.follows x = true) : a.SetWith wallOffset := by
  obtain ⟨_, htype, hoffset⟩ := TimerInfo.follows_iff.mp h
  unfold TimerInfo.SetWith convertToElapsed at *
  unfold TimerInfo.clockOffset at hoffset
  rw [htype]
  -- both kinds of conversion take a fixed time off `when`
  split
  · rename_i hrtc
    rw [if_pos hrtc] at hx
    simp only at hx ⊢
    omega
  · rename_i hrtc
    rw [if_neg hrtc] at hx
    simp only at hx ⊢
    omega

/-- `StartTimer` for the minimum futurity ahead or more raises nothing. -/
theorem setHandler_setWith {isSystemUid : ℤ → Bool} {boot wallOffset : ℤ} {id : ℕ} {type : ℤ}
    {triggerAtTime windowLength interval : ℕ} {flag : ℤ} {callback : Callback} {uid : ℤ}
    {alarm : TimerInfo} (h : setHandler isSystemUid boot ⟨boot, boot + wallOffset⟩ id type
      triggerAtTime windowLength interval flag callback uid = some alarm)
    (hmin : minTrigger (isSystemUid uid) boot
      ≤ convertToElapsed ⟨boot, boot + wallOffset⟩ (milliseconds triggerAtTime) type) :
    alarm.SetWith wallOffset := by
  have hset := setHandler_fields h
  have hnominal : alarm.whenElapsed
      = convertToElapsed ⟨boot, boot + wallOffset⟩ (milliseconds triggerAtTime) type := by
    rw [hset.whenElapsed_eq]
    unfold raisedTrigger
    split
    · rfl
    · omega
  rw [TimerInfo.SetWith, hnominal, hset.when_eq, hset.type_eq, convertToElapsed_of_offset]

/-! ### The history -/

/-- Every alarm goes off at its time, converted with the difference of the clocks it was set with;
    and the history misses no pending alarm. -/
structure Dated.Inv (d : Dated) : Prop where
  called : ∀ alarm, d.clocked.system.entryCall = some (.setHandlerLocked alarm) →
    alarm.SetWith d.calling
  set : ∀ x ∈ d.settings, x.1.SetWith x.2
  tracked : ∀ a ∈ d.pending, ∃ wallOffset, (a, wallOffset) ∈ d.settings

theorem mem_inheritSettings {settings : List (TimerInfo × ℤ)} {after : List TimerInfo}
    {x : TimerInfo × ℤ} : x ∈ inheritSettings settings after ↔
      x.1 ∈ after ∧ ∃ y, (y, x.2) ∈ settings ∧ x.1.follows y = true := by
  unfold inheritSettings
  rw [List.mem_flatMap]
  constructor
  · rintro ⟨a, ha, hx⟩
    obtain ⟨y, hy, rfl⟩ := List.mem_map.mp hx
    obtain ⟨hmem, hfollows⟩ := List.mem_filter.mp hy
    exact ⟨ha, y.1, hmem, hfollows⟩
  · rintro ⟨ha, y, hy, hfollows⟩
    exact ⟨x.1, ha, List.mem_map.mpr ⟨(y, x.2), List.mem_filter.mpr ⟨hy, hfollows⟩, rfl⟩⟩

section
variable {d : Dated} {w' : Clocked} {s' : System}

/-- After a rebatch every pending alarm has a setting with the present difference of the clocks. -/
theorem Dated.Inv.rebatched (h : d.Inv) (hw : w'.system = s')
    (hcall : ∀ alarm, s'.entryCall = some (.setHandlerLocked alarm) →
      d.clocked.system.entryCall = some (.setHandlerLocked alarm))
    (hpending : ∀ a ∈ TimeService.pending s'.schedule.alarmBatches,
      a.SetWith d.clocked.wallOffset) :
    ({ d with
      clocked := w'
      settings := (TimeService.pending w'.system.schedule.alarmBatches).map fun a =>
        (a, d.clocked.wallOffset) } : Dated).Inv := by
  subst hw
  constructor
  · exact fun alarm halarm => h.called alarm (hcall alarm halarm)
  · intro x hx
    obtain ⟨a, ha, rfl⟩ := List.mem_map.mp hx
    exact hpending a ha
  · exact fun a ha => ⟨d.clocked.wallOffset, List.mem_map.mpr ⟨a, ha, rfl⟩⟩

/-- An action that keeps the pending alarms and starts no call. -/
theorem Dated.Inv.kept (h : d.Inv) (hw : w'.system = s')
    (hcall : ∀ alarm, s'.entryCall = some (.setHandlerLocked alarm) →
      d.clocked.system.entryCall = some (.setHandlerLocked alarm))
    (hpending : ∀ a ∈ TimeService.pending s'.schedule.alarmBatches, a ∈ d.pending) :
    ({ d with clocked := w' } : Dated).Inv := by
  subst hw
  constructor
  · exact fun alarm halarm => h.called alarm (hcall alarm halarm)
  · exact h.set
  · exact fun a ha => h.tracked a (hpending a ha)

end

theorem Dated.Inv.startTimer {d : Dated} (h : d.Inv) (timerNumber triggerTime : ℕ)
    (isSystemUid : ℤ → Bool) (clock : Clock)
    (hok : SetsForGood d (.act (.startTimer timerNumber triggerTime isSystemUid clock)))
    {s' : System} (hs : d.clocked.system.step
      (.startTimer timerNumber triggerTime isSystemUid d.clocked.now) = some s') :
    (d.after (d.clocked.after s' (.startTimer timerNumber triggerTime isSystemUid clock))
      (.act (.startTimer timerNumber triggerTime isSystemUid clock))).Inv := by
  obtain ⟨hfree, hstart⟩ := System.startTimer_of_step hs
  obtain ⟨call, hcall⟩ :=
    d.clocked.system.startTimer_eq timerNumber triggerTime isSystemUid d.clocked.now
  have hbatches : s'.schedule.alarmBatches = d.clocked.system.schedule.alarmBatches := by
    rw [hstart, hcall]
  constructor
  · show ∀ alarm, s'.entryCall = some (.setHandlerLocked alarm) →
      alarm.SetWith d.clocked.wallOffset
    refine (System.stepCase hs).called ?_ ?_
    · -- no other call is under way
      intro alarm halarm
      rw [hfree] at halarm
      cases halarm
    · intro timerNumber' triggerTime' isSystemUid' clock' entry alarm haction hentry halarm
      cases haction
      exact setHandler_setWith halarm (hok entry hentry (setHandler_fields halarm).not_past)
  · exact h.set
  · intro a ha
    refine h.tracked a ?_
    have ha' : a ∈ TimeService.pending s'.schedule.alarmBatches := ha
    rw [hbatches] at ha'
    exact ha'

theorem Dated.Inv.setHandlerLocked {d : Dated} (h : d.Inv) {s' : System}
    (hs : d.clocked.system.step .setHandlerLocked = some s') :
    (d.after (d.clocked.after s' .setHandlerLocked) (.act .setHandlerLocked)).Inv := by
  obtain ⟨alarm, hcall, _, rfl⟩ := System.step_setHandlerLocked hs
  unfold Dated.after
  simp only [hcall]
  constructor
  · intro x hx
    simp only [Clocked.after_system] at hx
    cases hx
  · intro x hx
    rcases List.mem_cons.mp hx with rfl | hx
    · exact h.called alarm hcall
    · exact h.set x hx
  · intro a ha
    unfold Dated.pending at ha
    simp only [Clocked.after_system] at ha
    have ha' : a ∈ TimeService.pending
        (d.clocked.system.schedule.setHandlerLocked alarm false).alarmBatches := ha
    rw [Schedule.setHandlerLocked_alarmBatches, mem_pending_insertAndBatch] at ha'
    rcases ha' with rfl | ha'
    · -- the inserted alarm, with the setting of its call
      exact ⟨d.calling, List.mem_cons_self⟩
    · obtain ⟨wallOffset, hmem⟩ := h.tracked a ha'
      exact ⟨wallOffset, List.mem_cons_of_mem _ hmem⟩

/-- A reading at one instant converts with the present difference of the clocks. -/
theorem TimerInfo.setWith_of_converted {w : Clocked} {a : TimerInfo}
    (h : a.whenElapsed = convertToElapsed w.now a.when a.type) : a.SetWith w.wallOffset := by
  rw [Clocked.now, convertToElapsed_of_offset] at h
  exact h

theorem Dated.Inv.removeHandler {d : Dated} (h : d.Inv) (clocks : ℕ → Clock) {s' : System}
    (hs : d.clocked.system.step (.removeHandler fun _ => d.clocked.now) = some s') :
    (d.after (d.clocked.after s' (.removeHandler clocks)) (.act (.removeHandler clocks))).Inv := by
  have hw := d.clocked.after_system s' (.removeHandler clocks)
  obtain ⟨timerNumber, uid, needDestroy, hcall, _, rfl⟩ := System.step_removeHandler hs
  unfold Dated.after
  simp only
  rcases d.clocked.system.pending_removeHandler hcall d.clocked.now with
    ⟨hrebatches, hleft⟩ | ⟨hkeeps, hleft⟩
  · rw [if_pos hrebatches]
    exact h.rebatched hw (fun _ halarm => by cases halarm)
      fun a ha => TimerInfo.setWith_of_converted (hleft a ha).1
  · rw [if_neg (by rw [hkeeps]; decide)]
    exact h.kept hw (fun _ halarm => by cases halarm) hleft

theorem Dated.Inv.timeChange {d : Dated} (h : d.Inv) (clocks : ℕ → Clock) {s' : System}
    (hs : d.clocked.system.step (.timeChange fun _ => d.clocked.now) = some s') :
    (d.after (d.clocked.after s' (.timeChange clocks)) (.act (.timeChange clocks))).Inv := by
  have hw := d.clocked.after_system s' (.timeChange clocks)
  obtain ⟨result, nowRtc, nowElapsed, hlooper, hs'⟩ := System.step_timeChange hs
  have hrebatches := System.rebatches_of_woken hlooper
  unfold Dated.after
  simp only
  by_cases hchanged : result &&& timeChangedMask ≠ 0#32 ∧
      d.clocked.system.clockChanged nowRtc nowElapsed = true
  · rw [System.timeChange, if_pos hchanged] at hs'
    subst hs'
    rw [if_pos (by rw [hrebatches, decide_eq_true hchanged])]
    exact h.rebatched hw (fun _ halarm => halarm)
      fun a ha => TimerInfo.setWith_of_converted (mem_reBatchAllTimersLocked ha).1
  · rw [System.timeChange, if_neg hchanged] at hs'
    subst hs'
    rw [if_neg (by rw [hrebatches]; simpa using hchanged)]
    exact h.kept hw (fun _ halarm => halarm) fun _ ha => ha

/-- A re-armed alarm has the setting of the one it was re-armed from. -/
theorem Dated.Inv.pass {d : Dated} (h : d.Inv) (triggerList : List TimerInfo) {s' : System}
    (hs : d.clocked.system.step (.pass triggerList) = some s') :
    (d.after (d.clocked.after s' (.pass triggerList)) (.act (.pass triggerList))).Inv := by
  have hcalled := (System.stepCase hs).called h.called fun _ _ _ _ _ _ haction => by cases haction
  have hfollows := System.follows_of_pass hs
  constructor
  · intro alarm halarm
    have halarm' : (d.clocked.after s' (.pass triggerList)).system.entryCall
      = some (.setHandlerLocked alarm) := halarm
    rw [Clocked.after_system] at halarm'
    exact hcalled alarm halarm'
  · intro x hx
    obtain ⟨_, y, hy, hxy⟩ := mem_inheritSettings.mp hx
    exact (h.set (y, x.2) hy).of_follows hxy
  · intro a ha
    have ha' : a ∈ TimeService.pending
        (d.clocked.after s' (.pass triggerList)).system.schedule.alarmBatches := ha
    rw [Clocked.after_system] at ha'
    obtain ⟨x, hx, hax⟩ := hfollows a ha'
    obtain ⟨wallOffset, hmem⟩ := h.tracked x hx
    exact ⟨wallOffset, mem_inheritSettings.mpr ⟨ha, x, hmem, hax⟩⟩

/-- Every step keeps the invariant, in runs that set for good. -/
theorem Dated.Inv.step {d d' : Dated} {a : ClockedAction} (h : d.Inv) (hok : SetsForGood d a)
    (hstep : d.step a = some d') : d'.Inv := by
  obtain ⟨w', hw, rfl⟩ := Option.map_eq_some_iff.mp hstep
  rcases a with wallOffset | a
  · -- no setting depends on the wall clock of now
    cases hw
    exact h.kept rfl (fun _ halarm => halarm) fun _ ha => ha
  · obtain ⟨s', hs, rfl⟩ := Option.map_eq_some_iff.mp hw
    cases a with
    | startTimer timerNumber triggerTime isSystemUid clock =>
      exact h.startTimer timerNumber triggerTime isSystemUid clock hok hs
    | setHandlerLocked => exact h.setHandlerLocked hs
    | removeHandler clocks => exact h.removeHandler clocks hs
    | wake events nowRtc =>
      obtain ⟨_, rfl⟩ := System.step_wake hs
      exact h.kept rfl (fun _ halarm => halarm) fun _ ha => ha
    | timeChange clocks => exact h.timeChange clocks hs
    | pass triggerList => exact h.pass triggerList hs
    | _ =>
      have hq := (System.stepCase hs).quiet trivial
      refine h.kept (d.clocked.after_system s' _) hq.entryCall fun a ha => ?_
      rw [hq.batches] at ha
      exact ha

theorem Dated.Inv.init (bootTime wallOffset : ℤ) : (Dated.init bootTime wallOffset).Inv where
  called _ h := by cases h
  set _ h := by cases h
  tracked _ h := by cases h

theorem DatedReachable.inv {d : Dated} (h : DatedReachable SetsForGood d) : d.Inv := by
  obtain ⟨bootTime, wallOffset, _, hrun⟩ := h
  exact hrun.invariant (fun _ _ _ ht hok hs => ht.step hok hs)
    (Dated.Inv.init bootTime wallOffset)

/-- The history misses no pending alarm. -/
theorem DatedReachable.exists_setting {d : Dated} (h : DatedReachable SetsForGood d) :
    ∀ a ∈ d.pending, ∃ wallOffset, (a, wallOffset) ∈ d.settings :=
  h.inv.tracked

/-- The history restricts nothing. -/
@[simp] theorem Dated.after_clocked (d : Dated) (w' : Clocked) (a : ClockedAction) :
    (d.after w' a).clocked = w' := by
  unfold Dated.after
  split <;> (try split) <;> rfl

/-- The readings of a pass are of its alarms alone. -/
theorem SetsForGood.rearmsInWindow {d : Dated} {a : Action} (h : SetsForGood d (.act a)) :
    RearmsInWindow d.clocked.system (a.reading d.clocked.now) := by
  cases a with
  | pass triggerList => exact h
  | _ => trivial

/-- The runs with the history are runs of the manager. -/
theorem DatedReachable.system {d : Dated} (h : DatedReachable SetsForGood d) :
    Reachable RearmsInWindow d.clocked.system := by
  obtain ⟨bootTime, wallOffset, hpos, hrun⟩ := h
  refine ⟨bootTime, hpos, ?_⟩
  refine @Reaches.invariant _ _ _ _ _ _ (fun t : Dated =>
    Reaches System.step RearmsInWindow (System.init bootTime) t.clocked.system) hrun ?_ .refl
  intro t a t' ht hok hs
  obtain ⟨w', hw, rfl⟩ := Option.map_eq_some_iff.mp hs
  rw [Dated.after_clocked]
  rcases a with wallOffset' | a
  · cases hw
    exact ht
  · obtain ⟨s', hs', rfl⟩ := Option.map_eq_some_iff.mp hw
    rw [Clocked.after_system]
    exact ht.tail hok.rearmsInWindow hs'

/-! ### Rebatching -/

/-- The time a rebatch starts from is the one the alarm is set for. -/
theorem Reachable.when_eq_origWhen {ok : System → Action → Prop} {s : System}
    (h : Reachable ok s) : ∀ a ∈ pending s.schedule.alarmBatches, a.when = a.origWhen := by
  have hreAdded : ∀ nowElapsed clock (x y : TimerInfo), x.when = x.origWhen →
      x.reAdded nowElapsed clock = some y → y.when = y.origWhen := by
    intro nowElapsed clock x y _ hy
    unfold TimerInfo.reAdded at hy
    simp only at hy
    split at hy
    · cases hy
    · cases hy
      rfl
  have hinv := @Reachable.invariant ok (fun t =>
    (∀ a ∈ pending t.schedule.alarmBatches, a.when = a.origWhen) ∧
      ∀ alarm, t.entryCall = some (.setHandlerLocked alarm) → alarm.when = alarm.origWhen) s h
    (fun _ _ => ⟨fun _ ha => (List.not_mem_nil ha).elim, fun _ hcall => by cases hcall⟩) ?_
  · exact hinv.1
  · rintro t a t' ⟨hpending, hcall⟩ _ hcase
    refine ⟨hcase.pending hpending hcall (fun _ _ _ => rfl) hreAdded, hcase.called hcall ?_⟩
    intro _ _ _ _ _ alarm _ _ hset
    rw [(setHandler_fields hset).when_eq, (setHandler_fields hset).origWhen_eq]

/-- A rebatch leaves an alarm alone that goes off at its time and keeps its window, or drops it when
    its time has passed. -/
theorem TimerInfo.reAdded_of_setWith {nowElapsed boot wallOffset : ℤ} {x : TimerInfo}
    (hset : x.SetWith wallOffset) (hwhen : x.when = x.origWhen) (hkeeps : x.KeepsWindow) :
    x.reAdded nowElapsed ⟨boot, boot + wallOffset⟩
      = if nowElapsed ≤ x.whenElapsed then some x else none := by
  have hconv : convertToElapsed ⟨boot, boot + wallOffset⟩ x.origWhen x.type = x.whenElapsed := by
    rw [convertToElapsed_of_offset, ← hwhen]
    exact hset.symm
  -- the window of `ReAddTimerLocked` is the one the alarm keeps
  have hmax : (if x.windowLength = 0 then x.whenElapsed
      else if x.windowLength > 0 then x.whenElapsed + msToNs x.windowLength
      else maxTriggerTime nowElapsed x.whenElapsed x.repeatInterval) = x.maxWhenElapsed := by
    have hnonneg := hkeeps.nonneg
    rw [hkeeps.max_eq]
    split
    · rename_i hzero
      rw [hzero]
      exact (add_zero _).symm
    · rw [if_pos (by omega)]
  unfold TimerInfo.reAdded
  simp only [hconv]
  by_cases hpast : nowElapsed ≤ x.whenElapsed
  · rw [if_neg (not_lt.mpr hpast), if_pos hpast, hmax]
    exact congrArg (fun when => some { x with when := when }) hwhen.symm
  · rw [if_pos (not_le.mp hpast), if_neg hpast]

/-- The loops of a rebatch put back the alarms whose time has not passed. -/
theorem reAddedAll_eq_filter {nowElapsed wallOffset : ℤ} {timers : List TimerInfo}
    (h : ∀ x ∈ timers, x.SetWith wallOffset ∧ x.when = x.origWhen ∧ x.KeepsWindow)
    (boots : ℕ → ℤ) :
    reAddedAll nowElapsed (fun i => ⟨boots i, boots i + wallOffset⟩) timers
      = timers.filter fun a => nowElapsed ≤ a.whenElapsed := by
  induction timers generalizing boots with
  | nil => rfl
  | cons x rest ih =>
    obtain ⟨hset, hwhen, hkeeps⟩ := h x List.mem_cons_self
    -- the readings of the rest are those behind the first
    have hrest := ih (fun y hy => h y (List.mem_cons_of_mem x hy)) fun i => boots (i + 1)
    rw [reAddedAll, TimerInfo.reAdded_of_setWith hset hwhen hkeeps, hrest]
    by_cases hpast : nowElapsed ≤ x.whenElapsed
    · rw [if_pos hpast, List.filter_cons_of_pos (by simpa using hpast)]
      rfl
    · rw [if_neg hpast, List.filter_cons_of_neg (by simpa using hpast)]
      rfl

/-- **Rebatching.** In every run that starts no timer for less than the minimum futurity ahead and
    whose passes trigger only alarms that are re-armed in their window: while the difference of the
    clocks is the one that the pending alarms were set with, a rebatch, at any time and with any
    readings at one instant each, leaves exactly the alarms whose time has not passed, as they
    were. -/
theorem rebatch_keeps_schedule {d : Dated} (h : DatedReachable SetsForGood d)
    (hkept : d.ClocksKept) (nowElapsed : ℤ) (boots : ℕ → ℤ) :
    (pending (d.clocked.system.schedule.reBatchAllTimersLocked nowElapsed
      fun i => ⟨boots i, boots i + d.clocked.wallOffset⟩).alarmBatches).Perm
      (d.pending.filter fun a => nowElapsed ≤ a.whenElapsed) := by
  have hgood : ∀ a ∈ d.pending,
      a.SetWith d.clocked.wallOffset ∧ a.when = a.origWhen ∧ a.KeepsWindow := by
    intro a ha
    exact ⟨h.inv.set (a, d.clocked.wallOffset) (hkept a ha), h.system.when_eq_origWhen a ha,
      h.system.keepsWindow.1 a ha⟩
  have hperm := d.clocked.system.schedule.reBatchAllTimersLocked_pending nowElapsed
    fun i => ⟨boots i, boots i + d.clocked.wallOffset⟩
  rw [← reAddedAll_eq_filter hgood boots]
  exact hperm

/-- A computed run of a manager created a second after the boot, at wall-clock time zero. -/
theorem exists_dated {ok : Dated → ClockedAction → Prop} {okb : Dated → ClockedAction → Bool}
    (hok : ∀ t a, okb t a = true → ok t a) (acts : List ClockedAction) (check : Dated → Bool)
    (h : (runWhen Dated.step okb (Dated.init 1000000000 (-1000000000)) acts).any check = true) :
    ∃ d, DatedReachable ok d ∧ check d = true := by
  obtain ⟨d, hrun, hcheck⟩ := exists_reaches_of_runWhen hok acts check h
  exact ⟨d, ⟨1000000000, -1000000000, by decide, hrun⟩, hcheck⟩

/-- The condition on runs, as a check. -/
def setsForGoodCheck (d : Dated) : ClockedAction → Bool
  | .act (.startTimer timerNumber triggerTime isSystemUid _) =>
    (d.clocked.system.timerEntryMap.lookup timerNumber).all fun entry =>
      minTrigger (isSystemUid entry.uid) d.clocked.now.boot
        ≤ convertToElapsed d.clocked.now (milliseconds triggerTime) entry.type
  | .act (.pass triggerList) => triggerList.all fun a => decide a.RearmsInWindow
  | _ => true

theorem setsForGood_of_check (d : Dated) (a : ClockedAction) (h : setsForGoodCheck d a = true) :
    SetsForGood d a := by
  unfold setsForGoodCheck at h
  split at h
  · intro entry hentry _
    rw [hentry] at h
    exact of_decide_eq_true h
  · intro a ha
    exact of_decide_eq_true (List.all_eq_true.mp h a ha)
  · rename_i hstart hpass
    unfold SetsForGood
    split
    · exact (hstart _ _ _ _ rfl).elim
    · exact (hpass _ rfl).elim
    · trivial

/-- A timer of the given type and interval is created and started. -/
def startOf (type : ℤ) (interval triggerTime : ℕ) : List ClockedAction :=
  [.act (.createTimer [1] type 0 interval 0 (some 0) 20010),
    .act (.startTimer 1 triggerTime (fun _ => false) ⟨0, 0⟩), .act .setHandlerLocked]

/-- An exact timer on the wall clock for every five seconds, after its first repetition. -/
theorem rebatch_keeps_schedule_repeated :
    ∃ d : Dated, d.pending.map (·.whenElapsed) = [106000000000] ∧
      (pending (d.clocked.system.schedule.reBatchAllTimersLocked 102000000000
        fun i => ⟨102000000000 + i, 102000000000 + i + d.clocked.wallOffset⟩).alarmBatches).Perm
        (d.pending.filter fun a => 102000000000 ≤ a.whenElapsed) := by
  let alarm := (TimerInfo.make 1 1 100000 101000000000 0 101000000000 5000 (some 0) 0
    20010).triggered 101000000000
  obtain ⟨d, hd, hcheck⟩ := exists_dated setsForGood_of_check
    (startOf 1 5000 100000 ++ [.act (.advance 101000000000)] ++
      (expiryIteration 1 ⟨101000000000, 100000000000⟩ [alarm]).map .act)
    (fun d => decide (d.pending.map (·.whenElapsed) = [106000000000]) &&
      decide (∀ a ∈ d.pending, (a, d.clocked.wallOffset) ∈ d.settings))
    (by decide +kernel)
  rw [Bool.and_eq_true, decide_eq_true_eq, decide_eq_true_eq] at hcheck
  exact ⟨d, hcheck.1, rebatch_keeps_schedule hd hcheck.2 102000000000 fun i => 102000000000 + i⟩

/-- A timer for the next second is raised to five seconds ahead; the rebatch that another timer's
    stop runs puts it back to the next second. -/
theorem rebatch_moves_alarm :
    ¬ ∀ d : Dated, DatedReachable (fun _ _ => True) d → d.ClocksKept →
      ∀ (nowElapsed : ℤ) (boots : ℕ → ℤ), ∀ a ∈ d.pending, nowElapsed ≤ a.whenElapsed →
      ∃ x ∈ pending (d.clocked.system.schedule.reBatchAllTimersLocked nowElapsed
          fun i => ⟨boots i, boots i + d.clocked.wallOffset⟩).alarmBatches,
        x.id = a.id ∧ x.whenElapsed = a.whenElapsed ∧ x.maxWhenElapsed = a.maxWhenElapsed := by
  intro hclaim
  obtain ⟨d, hd, hcheck⟩ := @exists_dated (fun _ _ => True) (fun _ _ => true) (fun _ _ _ => trivial)
    (startOf 3 0 2000)
    (fun d => decide (d.pending.map (·.whenElapsed) = [6000000000]) &&
      (decide (∀ a ∈ d.pending, (a, d.clocked.wallOffset) ∈ d.settings) &&
        decide ((pending (d.clocked.system.schedule.reBatchAllTimersLocked 1500000000
          fun _ => ⟨1500000000, 1500000000 + d.clocked.wallOffset⟩).alarmBatches).map
            (·.whenElapsed) = [2000000000])))
    (by decide +kernel)
  simp only [Bool.and_eq_true, decide_eq_true_eq] at hcheck
  obtain ⟨hraised, hkept, hmoved⟩ := hcheck
  -- pending for 6 s before the rebatch, for 2 s after it
  have htime : (6000000000 : ℤ) ∈ d.pending.map (·.whenElapsed) := by
    rw [hraised]
    exact List.mem_singleton.mpr rfl
  obtain ⟨a, ha, helapsed⟩ := List.mem_map.mp htime
  obtain ⟨x, hx, _, hsame, _⟩ := hclaim d hd hkept 1500000000 (fun _ => 1500000000) a ha
    (by rw [helapsed]; decide)
  have hback := List.mem_map_of_mem (f := (·.whenElapsed)) hx
  rw [hmoved, List.mem_singleton, hsame, helapsed] at hback
  revert hback
  decide

end TimeService
