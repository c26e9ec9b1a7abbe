import TimeService.Timer.Manager
import Mathlib.Algebra.Order.Group.Unbundled.Abs

namespace TimeService

open Transition

/-!
# Alarms on the wall clock

Alarms of the `RTC` types are set for a wall-clock time and scheduled on the boot clock, with the
difference of the two clocks at their conversion.  When the wall clock is set, the looper converts
them anew, unless its readings are within a second of what it remembers of the last conversion.

`Clocked` is the manager with a wall clock that runs with the boot clock and can be set to
anything at any time.  Every reading of the clocks is a reading of these, at one instant.  The
fields `converted`, `reading`, `exact` and `raised` are history.

* `follows_wall_clock`: in runs in which every alarm is inserted with a difference of the clocks
  that the looper's own test takes for unchanged, the alarms are within 2002 ms of their wall-clock
  time after every iteration that reports a change;
* `alarm_left_behind`: two settings that undo each other, with an alarm started in between.
-/

/-- The manager and the wall clock.  `wallOffset` is how far the wall clock is ahead of the boot
    clock.  `converted` is the reading with which the `StartTimer` under way has converted its
    trigger time, when that has not been raised; `reading` is the last reading of the looper.
    `exact` are the alarms whose time is a converted one, `raised` those that were raised to the
    minimum futurity, each with the alarms re-armed from them; an alarm that could be from both is
    in both. -/
structure Clocked where
  system : System
  wallOffset : ℤ
  converted : Option Clock
  reading : Clock
  exact : List TimerInfo
  raised : List TimerInfo

/-- What can happen: the wall clock is set, or a region of the manager runs. -/
inductive ClockedAction
  | setWallClock (wallOffset : ℤ)
  | act (a : Action)

def Clocked.init (bootTime wallOffset : ℤ) : Clocked where
  system := System.init bootTime
  wallOffset := wallOffset
  converted := none
  reading := ⟨bootTime, bootTime + wallOffset⟩
  exact := []
  raised := []

/-- Both clocks at this instant. -/
def Clocked.now (w : Clocked) : Clock := ⟨w.system.bootTime, w.system.bootTime + w.wallOffset⟩

/-- The region with its readings of the clocks. -/
def Action.reading (clock : Clock) : Action → Action
  | .startTimer timerNumber triggerTime isSystemUid _ =>
    .startTimer timerNumber triggerTime isSystemUid clock
  | .removeHandler _ => .removeHandler fun _ => clock
  | .wake events _ => .wake events clock.rtc
  | .timeChange _ => .timeChange fun _ => clock
  | a => a

/-- The alarm goes off at the converted time. -/
def TimerInfo.convertedBy (clock : Clock) (a : TimerInfo) : Bool :=
  a.whenElapsed = convertToElapsed clock a.when a.type

/-- The difference of the clocks with which an alarm is scheduled. -/
def TimerInfo.clockOffset (a : TimerInfo) : ℤ := msToNs a.when - a.whenElapsed

/-- Re-arming keeps the timer of an alarm and its difference of the clocks. -/
def TimerInfo.follows (x y : TimerInfo) : Bool :=
  x.id = y.id ∧ x.type = y.type ∧ x.clockOffset = y.clockOffset

/-- Of the alarms that are pending after a pass, those that may be re-armed from given ones. -/
def rearmedFrom (alarms after : List TimerInfo) : List TimerInfo :=
  after.filter fun x => alarms.any x.follows

/-- Whether the clock-change region rebatches. -/
def System.rebatches (s : System) : Bool :=
  match s.looper with
  | .woken result nowRtc nowElapsed =>
    result &&& timeChangedMask ≠ 0#32 ∧ s.clockChanged nowRtc nowElapsed = true
  | _ => false

/-- Whether the removal under way rebatches. -/
def System.removalRebatches (s : System) : Bool :=
  match s.entryCall with
  | some (.removeHandler timerNumber _ _) =>
    (removeBatches timerNumber s.schedule.alarmBatches false).2
  | _ => false

/-- The history after a region that has led to `s'`. -/
def Clocked.after (w : Clocked) (s' : System) : Action → Clocked
  | .startTimer .. =>
    { w with
      system := s'
      converted :=
        match s'.entryCall with
        | some (.setHandlerLocked alarm) => if alarm.convertedBy w.now then some w.now else none
        | _ => none }
  | .setHandlerLocked =>
    match w.system.entryCall with
    | some (.setHandlerLocked alarm) =>
      if w.converted.isSome then
        { w with system := s', converted := none, exact := alarm :: w.exact }
      else { w with system := s', raised := alarm :: w.raised }
    | _ => { w with system := s' }
  | .removeHandler _ =>
    if w.system.removalRebatches then
      { w with system := s', exact := pending s'.schedule.alarmBatches, raised := [] }
    else { w with system := s' }
  | .wake .. => { w with system := s', reading := w.now }
  | .timeChange _ =>
    if w.system.rebatches then
      { w with system := s', exact := pending s'.schedule.alarmBatches, raised := [] }
    else { w with system := s' }
  | .pass _ =>
    { w with
      system := s'
      exact := rearmedFrom w.exact (pending s'.schedule.alarmBatches)
      raised := rearmedFrom w.raised (pending s'.schedule.alarmBatches) }
  | _ => { w with system := s' }

/-- One step; `none` when the action is not enabled. -/
def Clocked.step (w : Clocked) : ClockedAction → Option Clocked
  | .setWallClock wallOffset => some { w with wallOffset := wallOffset }
  | .act a => (w.system.step (a.reading w.now)).map fun s' => w.after s' a

/-- The states of the guarded runs from a new manager, with the wall clock set to anything. -/
def ClockedReachable (ok : Clocked → ClockedAction → Prop) (w : Clocked) : Prop :=
  ∃ bootTime wallOffset, 0 < bootTime ∧
    Reaches Clocked.step ok (Clocked.init bootTime wallOffset) w

/-- The test of the looper takes this reading of the clocks for unchanged, or it remembers no
    conversion yet. -/
def System.Unchanged (s : System) (clock : Clock) : Prop :=
  s.lastTimeChangeClockTime = none ∨ s.clockChanged clock.rtc clock.boot = false

/-- The type of an alarm on the wall clock. -/
def TimerInfo.OfRtcType (a : TimerInfo) : Prop :=
  a.type = TimerType.rtc.value ∨ a.type = TimerType.rtcWakeup.value

theorem TimerInfo.OfRtcType.congr {a x : TimerInfo} (h : a.OfRtcType) (htype : a.type = x.type) :
    x.OfRtcType := by
  unfold TimerInfo.OfRtcType
  rw [← htype]
  exact h

/-- Every alarm on the wall clock is inserted with a reading that the looper's test takes for
    unchanged: the alarm of a `StartTimer`, the alarms that a removal puts back, and those that the
    looper puts back, for which the test is against the reading it remembers from then on. -/
def InsertsUnchanged (w : Clocked) : ClockedAction → Prop
  | .act .setHandlerLocked => ∀ alarm clock,
      w.system.entryCall = some (.setHandlerLocked alarm) → w.converted = some clock →
      alarm.OfRtcType → w.system.Unchanged clock
  | .act (.removeHandler _) => ∀ timerNumber uid needDestroy,
      w.system.entryCall = some (.removeHandler timerNumber uid needDestroy) →
      w.system.removalRebatches = true →
      (∃ a ∈ pending w.system.schedule.alarmBatches, a.id ≠ timerNumber ∧ a.OfRtcType) →
      w.system.Unchanged w.now
  | .act (.timeChange _) => w.system.rebatches = true →
      (∃ a ∈ pending w.system.schedule.alarmBatches, a.OfRtcType) →
      { w.system with
        lastTimeChangeClockTime := some w.reading.rtc
        lastTimeChangeRealtime := w.reading.boot }.Unchanged w.now
  | _ => True

/-! ### Differences of the clocks -/

theorem TimerInfo.clockOffset_next (nowElapsed : ℤ) (a : TimerInfo) :
    (a.next nowElapsed).clockOffset = a.clockOffset := by
  show msToNs (a.when + _) - (a.whenElapsed + msToNs _) = msToNs a.when - a.whenElapsed
  unfold msToNs
  ring

theorem TimerInfo.clockOffset_of_converted {clock : Clock} {a : TimerInfo} (hrtc : a.OfRtcType)
    (h : a.whenElapsed = convertToElapsed clock a.when a.type) :
    a.clockOffset = clock.rtc - clock.boot := by
  have hconv : convertToElapsed clock a.when a.type
      = clock.boot + (msToNs a.when - clock.rtc) := if_pos hrtc
  rw [TimerInfo.clockOffset, h, hconv]
  ring

/-- What `ReAddTimerLocked` puts back goes off at the converted time. -/
theorem TimerInfo.reAdded_converted {nowElapsed : ℤ} {clock : Clock} {x y : TimerInfo}
    (h : x.reAdded nowElapsed clock = some y) :
    y.type = x.type ∧ y.whenElapsed = convertToElapsed clock y.when y.type := by
  unfold TimerInfo.reAdded at h
  simp only at h
  split at h
  · cases h
  · cases h
    exact ⟨rfl, rfl⟩

/-- A reading that is taken for unchanged is less than 1001 ms off: one second of tolerance, and
    what the two truncations to milliseconds leave out. -/
theorem offset_of_unchanged {s : System} {clock : Clock} {lastTimeChangeClockTime : ℤ}
    (hlast : s.lastTimeChangeClockTime = some lastTimeChangeClockTime)
    (hrealtime : 0 ≤ s.lastTimeChangeRealtime) (hboot : 0 ≤ clock.boot) (h : s.Unchanged clock) :
    |(clock.rtc - clock.boot) - (lastTimeChangeClockTime - s.lastTimeChangeRealtime)|
      ≤ msToNs 1001 := by
  have htest : s.clockChanged clock.rtc clock.boot = false := by
    rcases h with hnone | h
    · rw [hlast] at hnone
      cases hnone
    · exact h
  unfold System.clockChanged at htest
  simp only [hlast, decide_eq_false_iff_not, not_or, not_lt] at htest
  unfold durationCastMs at htest
  rw [Int.tdiv_eq_ediv_of_nonneg hrealtime, Int.tdiv_eq_ediv_of_nonneg hboot] at htest
  unfold msToNs at *
  rw [abs_le]
  omega

/-! ### The invariant -/

/-- The alarm is within the tolerance of the conversion that the looper remembers. -/
def System.Near (s : System) (a : TimerInfo) : Prop :=
  ∀ lastTimeChangeClockTime, s.lastTimeChangeClockTime = some lastTimeChangeClockTime →
    |a.clockOffset - (lastTimeChangeClockTime - s.lastTimeChangeRealtime)| ≤ msToNs 1001

/-- What holds in the runs that insert unchanged.  The last field says that the history misses no
    pending alarm. -/
structure Clocked.Inv (w : Clocked) : Prop where
  boot : 0 ≤ w.system.bootTime
  reading : 0 ≤ w.reading.boot
  realtime : w.system.lastTimeChangeClockTime ≠ none → 0 ≤ w.system.lastTimeChangeRealtime
  called : ∀ alarm clock, w.system.entryCall = some (.setHandlerLocked alarm) →
    w.converted = some clock →
    0 ≤ clock.boot ∧ alarm.whenElapsed = convertToElapsed clock alarm.when alarm.type
  woken : ∀ result nowRtc nowElapsed, w.system.looper = .woken result nowRtc nowElapsed →
    w.reading = ⟨nowElapsed, nowRtc⟩
  checked : ∀ result nowElapsed, w.system.looper = .checked result nowElapsed →
    w.reading.boot = nowElapsed ∧ (result &&& timeChangedMask ≠ 0#32 →
      w.system.lastTimeChangeClockTime ≠ none ∧ w.system.Unchanged w.reading)
  near : ∀ a ∈ w.exact, a.OfRtcType → w.system.Near a
  tracked : ∀ a ∈ pending w.system.schedule.alarmBatches, a ∈ w.exact ∨ a ∈ w.raised

/-- An action that neither reads the clocks nor touches the batches. -/
def Action.Quiet : Action → Prop
  | .startTimer .. | .setHandlerLocked | .removeHandler _ | .wake .. | .timeChange _ | .pass _ =>
    False
  | _ => True

/-- What a quiet action leaves alone. -/
structure QuietStep (s s' : System) : Prop where
  batches : s'.schedule.alarmBatches = s.schedule.alarmBatches
  woken : ∀ result nowRtc nowElapsed, s'.looper = .woken result nowRtc nowElapsed →
    s.looper = .woken result nowRtc nowElapsed
  checked : ∀ result nowElapsed, s'.looper = .checked result nowElapsed →
    s.looper = .checked result nowElapsed
  clockTime : s'.lastTimeChangeClockTime = s.lastTimeChangeClockTime
  realtime : s'.lastTimeChangeRealtime = s.lastTimeChangeRealtime
  bootTime : s.bootTime ≤ s'.bootTime
  entryCall : ∀ alarm, s'.entryCall = some (.setHandlerLocked alarm) →
    s.entryCall = some (.setHandlerLocked alarm)

theorem StepCase.quiet {s s' : System} {a : Action} (h : StepCase s a s') (ha : a.Quiet) :
    QuietStep s s' := by
  cases h with
  | idle | create | proxyTimer | resetAllProxy =>
    exact ⟨rfl, fun _ _ _ h => h, fun _ _ h => h, rfl, rfl, le_refl _, fun _ h => h⟩
  | stop | removeProxy | finish =>
    exact ⟨rfl, fun _ _ _ h => h, fun _ _ h => h, rfl, rfl, le_refl _, fun _ h => by cases h⟩
  | deliver | reschedule =>
    -- the looper is past the regions that read the clocks
    exact ⟨rfl, (fun _ _ _ h => by cases h), (fun _ _ h => by cases h), rfl, rfl, le_refl _,
      fun _ h => h⟩
  | advance bootTime hle =>
    exact ⟨rfl, fun _ _ _ h => h, fun _ _ h => h, rfl, rfl, hle, fun _ h => h⟩
  | insert | start | remove | wake | clockKept | rebatch | trigger | noTrigger => cases ha

/-- The test depends on what the looper remembers alone. -/
theorem System.Unchanged.congr {s s' : System} {clock : Clock} (h : s.Unchanged clock)
    (hclock : s'.lastTimeChangeClockTime = s.lastTimeChangeClockTime)
    (hrealtime : s'.lastTimeChangeRealtime = s.lastTimeChangeRealtime) : s'.Unchanged clock := by
  unfold System.Unchanged System.clockChanged at *
  rw [hclock, hrealtime]
  exact h

theorem System.Near.congr {s s' : System} {a : TimerInfo} (h : s.Near a)
    (hclock : s'.lastTimeChangeClockTime = s.lastTimeChangeClockTime)
    (hrealtime : s'.lastTimeChangeRealtime = s.lastTimeChangeRealtime) : s'.Near a := by
  intro last hlast
  rw [hrealtime]
  exact h last (hclock ▸ hlast)

/-- An alarm converted with an unchanged reading is within the tolerance. -/
theorem near_of_converted {s : System} {clock : Clock} {a : TimerInfo} (hrtc : a.OfRtcType)
    (hconv : a.whenElapsed = convertToElapsed clock a.when a.type) (hboot : 0 ≤ clock.boot)
    (hrealtime : s.lastTimeChangeClockTime ≠ none → 0 ≤ s.lastTimeChangeRealtime)
    (h : s.Unchanged clock) : s.Near a := by
  intro last hlast
  rw [TimerInfo.clockOffset_of_converted hrtc hconv]
  exact offset_of_unchanged hlast (hrealtime (by simp [hlast])) hboot h

theorem Clocked.Inv.init {bootTime wallOffset : ℤ} (hpos : 0 < bootTime) :
    (Clocked.init bootTime wallOffset).Inv where
  boot := hpos.le
  reading := hpos.le
  realtime h := (h rfl).elim
  called _ _ h := by cases h
  woken _ _ _ h := by cases h
  checked _ _ h := by cases h
  near _ h := by cases h
  tracked _ h := by cases h

/-- Quiet actions keep the invariant. -/
theorem Clocked.Inv.quiet {w : Clocked} (h : w.Inv) {s' : System} (hq : QuietStep w.system s') :
    ({ w with system := s' } : Clocked).Inv where
  boot := h.boot.trans hq.bootTime
  reading := h.reading
  realtime := by rw [hq.clockTime, hq.realtime]; exact h.realtime
  called alarm clock hcall := h.called alarm clock (hq.entryCall alarm hcall)
  woken result nowRtc nowElapsed hlooper :=
    h.woken result nowRtc nowElapsed (hq.woken result nowRtc nowElapsed hlooper)
  checked result nowElapsed hlooper := by
    obtain ⟨hreading, hchange⟩ :=
      h.checked result nowElapsed (hq.checked result nowElapsed hlooper)
    refine ⟨hreading, fun hmask => ?_⟩
    rw [hq.clockTime]
    exact ⟨(hchange hmask).1, (hchange hmask).2.congr hq.clockTime hq.realtime⟩
  near a ha hrtc := (h.near a ha hrtc).congr hq.clockTime hq.realtime
  tracked := by rw [hq.batches]; exact h.tracked

theorem TimerInfo.follows_iff {x y : TimerInfo} : x.follows y = true ↔
    x.id = y.id ∧ x.type = y.type ∧ x.clockOffset = y.clockOffset :=
  decide_eq_true_iff

theorem TimerInfo.follows_refl (x : TimerInfo) : x.follows x = true :=
  TimerInfo.follows_iff.mpr ⟨rfl, rfl, rfl⟩

theorem TimerInfo.follows_next {x y : TimerInfo} (nowElapsed : ℤ) (h : x.follows y = true) :
    (x.next nowElapsed).follows y = true := by
  unfold TimerInfo.follows at *
  rw [TimerInfo.clockOffset_next]
  exact h

/-- `StartTimer` up to the lock of `mutex_` changes the call under way at most. -/
theorem System.startTimer_eq (s : System) (timerNumber triggerTime : ℕ) (isSystemUid : ℤ → Bool)
    (clock : Clock) :
    ∃ call, s.startTimer timerNumber triggerTime isSystemUid clock
      = { s with entryCall := call } := by
  unfold System.startTimer
  split
  · exact ⟨s.entryCall, rfl⟩
  · exact ⟨_, rfl⟩

theorem Clocked.Inv.startTimer {w : Clocked} (h : w.Inv) (timerNumber triggerTime : ℕ)
    (isSystemUid : ℤ → Bool) (clock : Clock) {s' : System}
    (hs : w.system.step (.startTimer timerNumber triggerTime isSystemUid w.now) = some s') :
    (w.after s' (.startTimer timerNumber triggerTime isSystemUid clock)).Inv := by
  obtain ⟨call, rfl⟩ : ∃ call, s' = { w.system with entryCall := call } := by
    obtain ⟨call, hcall⟩ := w.system.startTimer_eq timerNumber triggerTime isSystemUid w.now
    exact ⟨call, by rw [← hcall]; exact (System.startTimer_of_step hs).2⟩
  refine ⟨h.boot, h.reading, h.realtime, fun alarm clock' hcall hconv => ?_, h.woken, h.checked,
    h.near, h.tracked⟩
  -- the reading is recorded only for a time that is the converted one
  have hcall' : call = some (.setHandlerLocked alarm) := hcall
  subst hcall'
  have hconv' : (if alarm.convertedBy w.now then some w.now else none) = some clock' := hconv
  split at hconv'
  · rename_i hexact
    cases hconv'
    exact ⟨h.boot, by simpa [TimerInfo.convertedBy] using hexact⟩
  · cases hconv'

theorem Clocked.Inv.setHandlerLocked {w : Clocked} (h : w.Inv)
    (hok : InsertsUnchanged w (.act .setHandlerLocked)) {s' : System}
    (hs : w.system.step .setHandlerLocked = some s') : (w.after s' .setHandlerLocked).Inv := by
  obtain ⟨alarm, hcall, _, rfl⟩ := System.step_setHandlerLocked hs
  have hpending : ∀ a ∈ pending (w.system.setHandlerLocked alarm).schedule.alarmBatches,
      a = alarm ∨ a ∈ pending w.system.schedule.alarmBatches := by
    intro a ha
    have ha' : a ∈ pending (w.system.schedule.setHandlerLocked alarm false).alarmBatches := ha
    rw [Schedule.setHandlerLocked_alarmBatches] at ha'
    exact mem_pending_insertAndBatch.mp ha'
  unfold Clocked.after
  simp only [hcall]
  split
  · rename_i hconverted
    obtain ⟨clock, hclock⟩ := Option.isSome_iff_exists.mp hconverted
    obtain ⟨hboot, hconv⟩ := h.called alarm clock hcall hclock
    refine ⟨h.boot, h.reading, h.realtime, (fun _ _ hnone => by cases hnone), h.woken, h.checked,
      fun a ha hrtc => ?_, fun a ha => ?_⟩
    · rcases List.mem_cons.mp ha with rfl | ha
      · exact near_of_converted hrtc hconv hboot h.realtime (hok _ clock hcall hclock hrtc)
      · exact h.near a ha hrtc
    · rcases hpending a ha with rfl | ha
      · exact .inl (by simp)
      · exact (h.tracked a ha).imp (List.mem_cons_of_mem _) id
  · refine ⟨h.boot, h.reading, h.realtime, (fun _ _ hnone => by cases hnone), h.woken, h.checked,
      h.near, fun a ha => ?_⟩
    rcases hpending a ha with rfl | ha
    · exact .inr (by simp)
    · exact (h.tracked a ha).imp id (List.mem_cons_of_mem _)

/-- What the loops of a rebatch with one reading put back, this reading has converted. -/
theorem exists_of_mem_reAddedAll_const {nowElapsed : ℤ} {clock : Clock} {timers : List TimerInfo}
    {a : TimerInfo} (ha : a ∈ reAddedAll nowElapsed (fun _ => clock) timers) :
    ∃ timer ∈ timers, timer.reAdded nowElapsed clock = some a := by
  induction timers with
  | nil => cases ha
  | cons timer rest ih =>
    rcases List.mem_append.mp ha with ha | ha
    · exact ⟨timer, by simp, by simpa [Option.mem_toList] using ha⟩
    · obtain ⟨x, hx, hread⟩ := ih ha
      exact ⟨x, by simp [hx], hread⟩

/-- A rebatch with one reading of the clocks leaves alarms that this reading has converted. -/
theorem mem_reBatchAllTimersLocked {s : Schedule} {nowElapsed : ℤ} {clock : Clock} {a : TimerInfo}
    (ha : a ∈ pending (s.reBatchAllTimersLocked nowElapsed fun _ => clock).alarmBatches) :
    a.whenElapsed = convertToElapsed clock a.when a.type ∧
      ∃ x ∈ pending s.alarmBatches, a.id = x.id ∧ a.type = x.type := by
  rw [(s.reBatchAllTimersLocked_pending nowElapsed fun _ => clock).mem_iff] at ha
  obtain ⟨x, hx, hread⟩ := exists_of_mem_reAddedAll_const ha
  obtain ⟨htype, hconv⟩ := TimerInfo.reAdded_converted hread
  exact ⟨hconv, x, hx, TimerInfo.reAdded_id hread, htype⟩

/-- What a removal with one reading of the clocks leaves: alarms that this reading has converted
    when it rebatches, else alarms of before. -/
theorem System.pending_removeHandler (s : System) {timerNumber : ℕ} {uid : ℤ} {needDestroy : Bool}
    (hcall : s.entryCall = some (.removeHandler timerNumber uid needDestroy)) (clock : Clock) :
    (s.removalRebatches = true ∧
      ∀ a ∈ pending
          (s.removeHandler timerNumber uid needDestroy fun _ => clock).schedule.alarmBatches,
        a.whenElapsed = convertToElapsed clock a.when a.type ∧
          ∃ x ∈ pending s.schedule.alarmBatches, x.id ≠ timerNumber ∧ a.type = x.type) ∨
    (s.removalRebatches = false ∧
      ∀ a ∈ pending
          (s.removeHandler timerNumber uid needDestroy fun _ => clock).schedule.alarmBatches,
        a ∈ pending s.schedule.alarmBatches) := by
  have hrebatches : s.removalRebatches
      = (removeBatches timerNumber s.schedule.alarmBatches false).2 := by
    rw [System.removalRebatches, hcall]
  have hleft : ∀ x ∈ pending (removeBatches timerNumber s.schedule.alarmBatches false).1,
      x ∈ pending s.schedule.alarmBatches ∧ x.id ≠ timerNumber := by
    intro x hx
    rw [removeBatches_pending, List.mem_filter] at hx
    exact ⟨hx.1, by simpa using hx.2⟩
  have hschedule : (s.removeHandler timerNumber uid needDestroy fun _ => clock).schedule
      = s.schedule.removeLocked timerNumber s.bootTime fun _ => clock := rfl
  rw [hschedule, hrebatches]
  rcases s.schedule.removeLocked_cases timerNumber s.bootTime (fun _ => clock) with
    ⟨hdid, heq⟩ | ⟨hdid, heq⟩
  · refine .inl ⟨hdid, fun a ha => ?_⟩
    rw [heq] at ha
    obtain ⟨hconv, x, hx, _, htype⟩ := mem_reBatchAllTimersLocked ha
    exact ⟨hconv, x, (hleft x hx).1, (hleft x hx).2, htype⟩
  · refine .inr ⟨hdid, fun a ha => ?_⟩
    rw [heq] at ha
    exact (hleft a ha).1

theorem Clocked.Inv.removeHandler {w : Clocked} (h : w.Inv) (clocks : ℕ → Clock)
    (hok : InsertsUnchanged w (.act (.removeHandler clocks))) {s' : System}
    (hs : w.system.step (.removeHandler fun _ => w.now) = some s') :
    (w.after s' (.removeHandler clocks)).Inv := by
  obtain ⟨timerNumber, uid, needDestroy, hcall, _, rfl⟩ := System.step_removeHandler hs
  unfold Clocked.after
  simp only
  rcases w.system.pending_removeHandler hcall w.now with ⟨hrebatches, hleft⟩ | ⟨hkeeps, hleft⟩
  · rw [if_pos hrebatches]
    refine ⟨h.boot, h.reading, h.realtime, (fun _ _ hnone => by cases hnone), h.woken, h.checked,
      fun a ha hrtc => ?_, fun a ha => .inl ha⟩
    obtain ⟨hconv, x, hx, hid, htype⟩ := hleft a ha
    refine near_of_converted hrtc hconv h.boot h.realtime ?_
    exact hok timerNumber uid needDestroy hcall hrebatches ⟨x, hx, hid, hrtc.congr htype⟩
  · rw [if_neg (by rw [hkeeps]; decide)]
    exact ⟨h.boot, h.reading, h.realtime, (fun _ _ hnone => by cases hnone), h.woken, h.checked,
      h.near, fun a ha => h.tracked a (hleft a ha)⟩

theorem Clocked.Inv.wake {w : Clocked} (h : w.Inv)
    (events : Option (List (Fin (alarmTypeCount + 1) × ReadAnswer))) (nowRtc : ℤ) {s' : System}
    (hs : w.system.step (.wake events w.now.rtc) = some s') :
    (w.after s' (.wake events nowRtc)).Inv := by
  obtain ⟨_, rfl⟩ := System.step_wake hs
  refine ⟨h.boot, h.boot, h.realtime, h.called, fun result nowRtc' nowElapsed hlooper => ?_,
    (fun _ _ hlooper => by cases hlooper), h.near, h.tracked⟩
  cases hlooper
  rfl

/-- Whether the clock-change region rebatches, from what the looper has read. -/
theorem System.rebatches_of_woken {s : System} {result : BitVec 32} {nowRtc nowElapsed : ℤ}
    (hlooper : s.looper = .woken result nowRtc nowElapsed) :
    s.rebatches = decide (result &&& timeChangedMask ≠ 0#32 ∧
      s.clockChanged nowRtc nowElapsed = true) := by
  rw [System.rebatches, hlooper]

theorem Clocked.Inv.timeChange {w : Clocked} (h : w.Inv) (clocks : ℕ → Clock)
    (hok : InsertsUnchanged w (.act (.timeChange clocks))) {s' : System}
    (hs : w.system.step (.timeChange fun _ => w.now) = some s') :
    (w.after s' (.timeChange clocks)).Inv := by
  obtain ⟨result, nowRtc, nowElapsed, hlooper, rfl⟩ := System.step_timeChange hs
  have hreading := h.woken result nowRtc nowElapsed hlooper
  have hboot : 0 ≤ nowElapsed := by
    have := h.reading
    rwa [hreading] at this
  have hrebatches := System.rebatches_of_woken hlooper
  unfold Clocked.after
  simp only
  by_cases hchanged : result &&& timeChangedMask ≠ 0#32 ∧
      w.system.clockChanged nowRtc nowElapsed = true
  · have hrebatch : w.system.rebatches = true := by rw [hrebatches, decide_eq_true hchanged]
    rw [if_pos hrebatch, System.timeChange, if_pos hchanged]
    refine ⟨h.boot, h.reading, fun _ => hboot, h.called, (fun _ _ _ hw => by cases hw),
      fun result' nowElapsed' hw => ?_, fun a ha hrtc => ?_, fun a ha => .inl ha⟩
    · -- the reading is unchanged against itself
      cases hw
      refine ⟨by rw [hreading], fun _ => ⟨by simp, .inr ?_⟩⟩
      rw [hreading]
      unfold System.clockChanged
      simp [msToNs]
    · obtain ⟨hconv, x, hx, hid, htype⟩ := mem_reBatchAllTimersLocked ha
      refine near_of_converted hrtc hconv h.boot (fun _ => hboot) ?_
      have hunchanged := hok hrebatch ⟨x, hx, hrtc.congr htype⟩
      rw [hreading] at hunchanged
      exact hunchanged
  · have hkept : ¬ w.system.rebatches = true := by rw [hrebatches]; simpa using hchanged
    rw [if_neg hkept, System.timeChange, if_neg hchanged]
    refine ⟨h.boot, h.reading, h.realtime, h.called, (fun _ _ _ hw => by cases hw),
      fun result' nowElapsed' hw => ?_, h.near, h.tracked⟩
    cases hw
    refine ⟨by rw [hreading], fun hmask => ?_⟩
    -- the test was made, and has found no change
    have htest : w.system.clockChanged nowRtc nowElapsed = false := by
      rw [Bool.eq_false_iff]
      exact fun htrue => hchanged ⟨hmask, htrue⟩
    constructor
    · intro hnone
      unfold System.clockChanged at htest
      have hnone' : w.system.lastTimeChangeClockTime = none := hnone
      simp [hnone'] at htest
    · rw [hreading]
      exact .inr htest

/-- After a pass every pending alarm is one of before, or re-armed from one. -/
theorem pending_follows (s : Schedule) (nowElapsed : ℤ) :
    ∀ a ∈ pending (s.triggerTimersLocked nowElapsed).schedule.alarmBatches,
      ∃ x ∈ pending s.alarmBatches, a.follows x = true := by
  refine (@Schedule.triggerTimersLocked_forall
    (fun a => ∃ x ∈ pending s.alarmBatches, a.follows x = true) s nowElapsed ?_ ?_).1
  · exact fun x hx => ⟨x, hx, x.follows_refl⟩
  · rintro a ⟨x, hx, ha⟩
    exact ⟨x, hx, TimerInfo.follows_next nowElapsed ha⟩

/-- A pass of either kind leaves alarms of before and alarms re-armed from one. -/
theorem System.follows_of_pass {s s' : System} {triggerList : List TimerInfo}
    (h : s.step (.pass triggerList) = some s') :
    ∀ a ∈ pending s'.schedule.alarmBatches,
      ∃ x ∈ pending s.schedule.alarmBatches, a.follows x = true := by
  obtain ⟨result, nowElapsed, hlooper⟩ := System.looper_of_pass h
  rcases System.step_pass hlooper h with ⟨_, _, rfl⟩ | ⟨_, _, rfl⟩
  · exact pending_follows s.schedule nowElapsed
  · exact fun a ha => ⟨a, ha, a.follows_refl⟩

theorem mem_rearmedFrom {alarms after : List TimerInfo} {a : TimerInfo} :
    a ∈ rearmedFrom alarms after ↔ a ∈ after ∧ ∃ x ∈ alarms, a.follows x = true := by
  rw [rearmedFrom, List.mem_filter, List.any_eq_true]

/-- An alarm that is re-armed from one within the tolerance is within it. -/
theorem near_of_rearmed {s : System} {alarms after : List TimerInfo} {a : TimerInfo}
    (hnear : ∀ x ∈ alarms, x.OfRtcType → s.Near x) (ha : a ∈ rearmedFrom alarms after)
    (hrtc : a.OfRtcType) : s.Near a := by
  obtain ⟨_, x, hx, hfollows⟩ := mem_rearmedFrom.mp ha
  obtain ⟨_, htype, hoffset⟩ := TimerInfo.follows_iff.mp hfollows
  intro last hlast
  rw [hoffset]
  exact hnear x hx (hrtc.congr htype) last hlast

theorem Clocked.Inv.pass {w : Clocked} (h : w.Inv) (triggerList : List TimerInfo) {s' : System}
    (hs : w.system.step (.pass triggerList) = some s') : (w.after s' (.pass triggerList)).Inv := by
  obtain ⟨result, nowElapsed, hlooper⟩ := System.looper_of_pass hs
  have hpending := System.follows_of_pass hs
  -- a pass changes the batches and where the looper is
  obtain ⟨hboot, hclock, hrealtime, hcall, rest, hdelivering⟩ : s'.bootTime = w.system.bootTime ∧
      s'.lastTimeChangeClockTime = w.system.lastTimeChangeClockTime ∧
      s'.lastTimeChangeRealtime = w.system.lastTimeChangeRealtime ∧
      s'.entryCall = w.system.entryCall ∧ ∃ rest, s'.looper = .delivering rest := by
    rcases System.step_pass hlooper hs with ⟨_, _, rfl⟩ | ⟨_, _, rfl⟩
    · exact ⟨rfl, rfl, rfl, rfl, _, rfl⟩
    · exact ⟨rfl, rfl, rfl, rfl, _, rfl⟩
  unfold Clocked.after
  constructor
  · show 0 ≤ s'.bootTime
    rw [hboot]
    exact h.boot
  · exact h.reading
  · show s'.lastTimeChangeClockTime ≠ none → 0 ≤ s'.lastTimeChangeRealtime
    rw [hclock, hrealtime]
    exact h.realtime
  · intro alarm clock hcall' hconv
    exact h.called alarm clock (hcall ▸ hcall') hconv
  · intro _ _ _ hw
    rw [hdelivering] at hw
    cases hw
  · intro _ _ hw
    rw [hdelivering] at hw
    cases hw
  · intro a ha hrtc
    exact (near_of_rearmed h.near ha hrtc).congr hclock hrealtime
  · intro a ha
    obtain ⟨x, hx, hfollows⟩ := hpending a ha
    exact (h.tracked x hx).imp (fun hx => mem_rearmedFrom.mpr ⟨ha, x, hx, hfollows⟩)
      fun hx => mem_rearmedFrom.mpr ⟨ha, x, hx, hfollows⟩

/-- Every step keeps the invariant, in runs that insert unchanged. -/
theorem Clocked.Inv.step {w w' : Clocked} {a : ClockedAction} (h : w.Inv)
    (hok : InsertsUnchanged w a) (hstep : w.step a = some w') : w'.Inv := by
  rcases a with wallOffset | a
  · -- setting the wall clock alone changes nothing that is remembered
    cases hstep
    exact ⟨h.boot, h.reading, h.realtime, h.called, h.woken, h.checked, h.near, h.tracked⟩
  · obtain ⟨s', hs, rfl⟩ := Option.map_eq_some_iff.mp hstep
    cases a with
    | startTimer timerNumber triggerTime isSystemUid clock =>
      exact h.startTimer timerNumber triggerTime isSystemUid clock hs
    | setHandlerLocked => exact h.setHandlerLocked hok hs
    | removeHandler clocks => exact h.removeHandler clocks hok hs
    | wake events nowRtc => exact h.wake events nowRtc hs
    | timeChange clocks => exact h.timeChange clocks hok hs
    | pass triggerList => exact h.pass triggerList hs
    | _ => exact h.quiet ((System.stepCase hs).quiet trivial)

theorem ClockedReachable.inv {w : Clocked} (h : ClockedReachable InsertsUnchanged w) : w.Inv := by
  obtain ⟨bootTime, wallOffset, hpos, hrun⟩ := h
  exact hrun.invariant (fun _ _ _ ht hok hs => ht.step hok hs) (Clocked.Inv.init hpos)

/-- The history changes nothing in the manager. -/
@[simp] theorem Clocked.after_system (w : Clocked) (s' : System) (a : Action) :
    (w.after s' a).system = s' := by
  unfold Clocked.after
  split <;> (try split) <;> (try split) <;> rfl

/-- The runs with a wall clock are runs of the manager. -/
theorem ClockedReachable.system {ok : Clocked → ClockedAction → Prop} {w : Clocked}
    (h : ClockedReachable ok w) : Reachable Always w.system := by
  obtain ⟨bootTime, wallOffset, hpos, hrun⟩ := h
  refine ⟨bootTime, hpos, ?_⟩
  refine @Reaches.invariant _ _ _ _ _ _
    (fun t : Clocked => Reaches System.step Always (System.init bootTime) t.system) hrun ?_ .refl
  intro t a t' ht _ hs
  rcases a with wallOffset' | a
  · cases hs
    exact ht
  · obtain ⟨s', hs', rfl⟩ := Option.map_eq_some_iff.mp hs
    rw [Clocked.after_system]
    exact ht.tail trivial hs'

/-- The alarms on the wall clock are within the tolerance of their wall-clock time by the readings
    of the looper. -/
def Clocked.OnWallClock (w : Clocked) (reading : Clock) : Prop :=
  ∀ a ∈ pending w.system.schedule.alarmBatches, a ∈ w.exact → a.OfRtcType →
    |a.whenElapsed - (reading.boot + (msToNs a.when - reading.rtc))| ≤ msToNs 2002

/-- **Alarms follow the wall clock.** In every run in which the wall clock is set at any times to
    anything, and in which every alarm on it is inserted with a reading that the looper's own test
    takes for unchanged: when an iteration that has reported a time change is finished, every
    pending alarm that was not raised, nor re-armed from one that was, is within 2002 ms of its
    wall-clock time. -/
theorem follows_wall_clock {w w' : Clocked} (h : ClockedReachable InsertsUnchanged w)
    {result : BitVec 32} {nowElapsed : ℤ} (hlooper : w.system.looper = .checked result nowElapsed)
    (hchange : result &&& timeChangedMask ≠ 0#32) {triggerList : List TimerInfo}
    (hstep : w.step (.act (.pass triggerList)) = some w') : w'.OnWallClock w.reading := by
  have hinv := h.inv
  obtain ⟨hreading, hunchanged⟩ := hinv.checked result nowElapsed hlooper
  obtain ⟨hlast, hunchanged⟩ := hunchanged hchange
  obtain ⟨last, hlast⟩ := Option.ne_none_iff_exists'.mp hlast
  intro a ha hexact hrtc
  obtain ⟨s', hs, rfl⟩ := Option.map_eq_some_iff.mp hstep
  -- the alarm has the difference of the clocks of one that was near before the pass
  have hnear := near_of_rearmed hinv.near hexact hrtc last hlast
  have hnow := offset_of_unchanged hlast (hinv.realtime (by simp [hlast])) hinv.reading hunchanged
  rw [TimerInfo.clockOffset] at hnear
  unfold msToNs at *
  rw [abs_le] at *
  omega

/-- Every pending alarm that the history does not list as exact was raised, or re-armed from one
    that was. -/
theorem exact_or_raised {w : Clocked} (h : ClockedReachable InsertsUnchanged w) :
    ∀ a ∈ pending w.system.schedule.alarmBatches, a ∈ w.exact ∨ a ∈ w.raised :=
  h.inv.tracked

/-! ### Two runs -/

/-- A computed run from a manager created a second after the boot, at wall-clock time zero. -/
theorem exists_clocked {ok : Clocked → ClockedAction → Prop} {okb : Clocked → ClockedAction → Bool}
    (hok : ∀ t a, okb t a = true → ok t a) (acts : List ClockedAction) (check : Clocked → Bool)
    (h : (runWhen Clocked.step okb (Clocked.init 1000000000 (-1000000000)) acts).any check
      = true) : ∃ w, ClockedReachable ok w ∧ check w = true := by
  obtain ⟨w, hrun, hcheck⟩ := exists_reaches_of_runWhen hok acts check h
  exact ⟨w, ⟨1000000000, -1000000000, by decide, hrun⟩, hcheck⟩

/-- An iteration that reports a time change, up to the pass. -/
def reportChange : List ClockedAction :=
  [.act (.wake (some [(Fin.last alarmTypeCount, .canceled)]) 0),
    .act (.timeChange fun _ => ⟨0, 0⟩)]

/-- The rest of such an iteration. -/
def rescheduleAfter : List ClockedAction := (passRegion []).map .act

/-- A timer of type `RTC` is created and started. -/
def startRtc (triggerTime : ℕ) : List ClockedAction :=
  [.act (.createTimer [1] 1 0 0 0 (some 0) 10),
    .act (.startTimer 1 triggerTime (fun _ => false) ⟨0, 0⟩), .act .setHandlerLocked]

/-- The alarms that the history lists as exact, with their types and their wall-clock times. -/
def Clocked.exactTimes (w : Clocked) : List (ℤ × ℤ × ℤ) :=
  ((pending w.system.schedule.alarmBatches).filter (· ∈ w.exact)).map fun a =>
    (a.type, a.when, a.whenElapsed)

/-- The wall clock is set from midnight to one o'clock, a timer is started for half past one, and
    the wall clock is set back before the looper runs.  The looper finds no change, and the alarm
    stays scheduled for half past midnight. -/
theorem alarm_left_behind :
    ∃ w w' : Clocked, ClockedReachable (fun _ _ => True) w ∧
      w.system.looper = .checked timeChangedMask 1000000000 ∧
      w.step (.act (.pass [])) = some w' ∧ ¬ w'.OnWallClock w.reading := by
  obtain ⟨w, hw, hcheck⟩ := @exists_clocked (fun _ _ => True) (fun _ _ => true)
    (fun _ _ _ => trivial)
    (reportChange ++ rescheduleAfter ++ [.setWallClock 3599000000000] ++ startRtc 5400000 ++
      [.setWallClock (-1000000000)] ++ reportChange)
    (fun w => decide (w.system.looper = .checked timeChangedMask 1000000000) &&
      decide (w.reading = ⟨1000000000, 0⟩) &&
      (w.step (.act (.pass []))).any fun w' : Clocked =>
        decide (w'.exactTimes = [(1, 5400000, 1801000000000)]))
    (by decide +kernel)
  simp only [Bool.and_eq_true, decide_eq_true_eq] at hcheck
  obtain ⟨⟨hlooper, hreading⟩, hpass⟩ := hcheck
  obtain ⟨w', hstep, htimes⟩ := (Option.any_eq_true _ _).mp hpass
  refine ⟨w, w', hw, hlooper, hstep, fun htime => ?_⟩
  have hmem : ((1, 5400000, 1801000000000) : ℤ × ℤ × ℤ) ∈ w'.exactTimes := by
    rw [of_decide_eq_true htimes]
    exact List.mem_singleton.mpr rfl
  obtain ⟨a, ha, hfields⟩ := List.mem_map.mp hmem
  obtain ⟨htype, hwhen, helapsed⟩ : a.type = 1 ∧ a.when = 5400000 ∧
      a.whenElapsed = 1801000000000 := by simpa using hfields
  have hclose := htime a (List.mem_filter.mp ha).1 (by simpa using (List.mem_filter.mp ha).2)
    (.inl htype)
  -- it is due an hour before its wall-clock time
  rw [hreading, hwhen, helapsed] at hclose
  revert hclose
  decide

/-- The condition on runs, as a check that also refuses every removal and every rebatch of pending
    alarms. -/
def insertsUnchangedCheck (w : Clocked) : ClockedAction → Bool
  | .act .setHandlerLocked =>
    w.converted.all fun clock => !w.system.clockChanged clock.rtc clock.boot
  | .act (.removeHandler _) => false
  | .act (.timeChange _) => (pending w.system.schedule.alarmBatches).isEmpty || !w.system.rebatches
  | _ => true

theorem insertsUnchanged_of_check (w : Clocked) (a : ClockedAction)
    (h : insertsUnchangedCheck w a = true) : InsertsUnchanged w a := by
  unfold insertsUnchangedCheck at h
  split at h
  · intro alarm clock _ hclock _
    rw [hclock] at h
    exact .inr (by simpa using h)
  · cases h
  · rintro hrebatch ⟨a, ha, _⟩
    have hnil : pending w.system.schedule.alarmBatches = [] := by simpa [hrebatch] using h
    rw [hnil] at ha
    cases ha
  · rename_i hinsert hremove hchange
    unfold InsertsUnchanged
    split
    · exact (hinsert rfl).elim
    · exact (hremove _ rfl).elim
    · exact (hchange _ rfl).elim
    · trivial

/-- A step of half a second on the wall clock is within the tolerance. -/
theorem follows_wall_clock_step :
    ∃ w w' : Clocked, w'.exactTimes = [(1, 5400000, 5401000000000)] ∧
      w.reading = ⟨1000000000, 500000000⟩ ∧
      ClockedReachable InsertsUnchanged w ∧ w'.OnWallClock w.reading := by
  obtain ⟨w, hw, hcheck⟩ := exists_clocked insertsUnchanged_of_check
    (reportChange ++ rescheduleAfter ++ startRtc 5400000 ++ [.setWallClock (-500000000)] ++
      reportChange)
    (fun w => decide (w.system.looper = .checked timeChangedMask 1000000000) &&
      decide (w.reading = ⟨1000000000, 500000000⟩) &&
      (w.step (.act (.pass []))).any fun w' : Clocked =>
        decide (w'.exactTimes = [(1, 5400000, 5401000000000)]))
    (by decide +kernel)
  simp only [Bool.and_eq_true, decide_eq_true_eq] at hcheck
  obtain ⟨⟨hlooper, hreading⟩, hpass⟩ := hcheck
  obtain ⟨w', hstep, htimes⟩ := (Option.any_eq_true _ _).mp hpass
  exact ⟨w, w', of_decide_eq_true htimes, hreading, hw,
    follows_wall_clock hw hlooper (by decide) hstep⟩

end TimeService
