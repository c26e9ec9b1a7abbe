import TimeService.Lib.Run
import TimeService.Service.SystemTime

namespace TimeService

/-!
# Calls of `SetTime` as transactions

A call of `TimeService::SetTime` changes the system clock, then the clock of the RTC, then publishes
an event; an RTC that cannot be set ends it in between.

* `setTime_allOrNothing_iff`: the sequences of calls that are all or nothing, and announced.
-/

/-- A call of `SetTime`, with the clock as it is when the call begins. -/
structure SetTimeCall where
  realtime : Timespec
  time : ℤ
  env : SetTimeEnv
deriving DecidableEq, Repr

/-- The result of a call in a sequence of calls, and the state after it. -/
def SystemTime.call (s : SystemTime) (c : SetTimeCall) : Except TimeError Unit × SystemTime :=
  (s.withClock c.realtime).setTime c.time c.env

/-- A call in a sequence of calls. -/
def SystemTime.callStep (s : SystemTime) (c : SetTimeCall) : SystemTime := (s.call c).2

/-- A call is all or nothing and announced: after an error clock and events are as before; after a
    success the clock is the argument and there is one event more; and no change of the clock goes
    without an event. -/
structure AllOrNothing (before : SystemTime) (time : ℤ)
    (result : Except TimeError Unit × SystemTime) : Prop where
  failed : ∀ e, result.1 = .error e →
    result.2.realtime = before.realtime ∧ result.2.timeChanged = before.timeChanged
  done : result.1 = .ok () →
    (∃ tv : Timeval, 0 ≤ tv.tvUsec ∧ tv.tvUsec < 1000000 ∧
      tv.tvSec * 1000 + tv.tvUsec / 1000 = time ∧
      result.2.realtime = ⟨tv.tvSec, tv.tvUsec * 1000⟩) ∧
    ∃ event, result.2.timeChanged = before.timeChanged ++ [event]
  notified : result.2.realtime ≠ before.realtime →
    ∃ event, result.2.timeChanged = before.timeChanged ++ [event]

/-- The condition on a call: when it reaches the clock, the RTC can be set and the publisher is
    registered; or the RTC fails, and the clock showed the argument already. -/
def AnnouncedOrRefused (s : SystemTime) (c : SetTimeCall) : Prop :=
  c.env.Sets c.time →
    (¬ c.env.rtc.Fails ∧ s.registered = true) ∨
    (c.env.rtc.Fails ∧ c.realtime = timespecOfMillis c.time)

/-- Without registration nothing is published. -/
theorem SystemTime.publishTimeChangeEvents_timeChanged (s : SystemTime) (eventTime : ℤ) :
    (s.publishTimeChangeEvents eventTime).timeChanged
      = s.timeChanged ++ if s.registered then [eventTime] else [] := by
  unfold SystemTime.publishTimeChangeEvents
  split <;> simp [*]

/-- The clock that `SetTime` sets shows its argument. -/
theorem exists_timeval_of_sets {env : SetTimeEnv} {time : ℤ} (h : env.Sets time) :
    ∃ tv : Timeval, 0 ≤ tv.tvUsec ∧ tv.tvUsec < 1000000 ∧
      tv.tvSec * 1000 + tv.tvUsec / 1000 = time ∧
      timespecOfMillis time = ⟨tv.tvSec, tv.tvUsec * 1000⟩ := by
  have hnonneg : 0 ≤ time := (invalidTime_eq_false.mp h.2.1).1
  have hdiv : time.tdiv 1000 = time / 1000 := Int.tdiv_eq_ediv_of_nonneg hnonneg
  have hmod : time.tmod 1000 = time % 1000 := Int.tmod_eq_emod_of_nonneg hnonneg
  refine ⟨⟨time / 1000, time % 1000 * 1000⟩, ?_, ?_, ?_, ?_⟩
  · show 0 ≤ time % 1000 * 1000
    omega
  · show time % 1000 * 1000 < 1000000
    omega
  · show time / 1000 * 1000 + time % 1000 * 1000 / 1000 = time
    omega
  · rw [timespecOfMillis, hdiv, hmod]

/-- One call. -/
theorem allOrNothing_call_iff (s : SystemTime) (c : SetTimeCall) :
    AllOrNothing (s.withClock c.realtime) c.time (s.call c) ↔ AnnouncedOrRefused s c := by
  unfold AnnouncedOrRefused SystemTime.call
  rcases (s.withClock c.realtime).setTime_outcome c.time c.env with
    ⟨hsets, e, heq⟩ | ⟨hsets, hrtc, heq⟩ | ⟨hsets, hrtc, heq⟩
  · -- refused: nothing changes
    rw [heq]
    refine ⟨fun _ h => absurd h hsets, fun _ => ⟨fun _ _ => ⟨rfl, rfl⟩, fun h => ?_, fun h => ?_⟩⟩
    · cases h
    · exact (h rfl).elim
  · -- the clock is set, the RTC is not
    rw [heq]
    constructor
    · intro h _
      exact .inr ⟨hrtc, (h.failed .setRtcFailed rfl).1.symm⟩
    · intro h
      have hclock : c.realtime = timespecOfMillis c.time := by
        rcases h hsets with ⟨hno, _⟩ | ⟨_, hclock⟩
        · exact (hno hrtc).elim
        · exact hclock
      refine ⟨fun _ _ => ⟨hclock.symm, rfl⟩, fun hok => ?_, fun hne => ?_⟩
      · cases hok
      · exact (hne hclock.symm).elim
  · -- both are set, and a registered publisher tells it
    rw [heq]
    constructor
    · intro h _
      left
      refine ⟨hrtc, ?_⟩
      by_contra hregistered
      obtain ⟨event, hevent⟩ := (h.done rfl).2
      rw [SystemTime.publishTimeChangeEvents_timeChanged] at hevent
      simp [hregistered] at hevent
    · intro h
      have hregistered : s.registered = true := by
        rcases h hsets with ⟨_, hregistered⟩ | ⟨hfails, _⟩
        · exact hregistered
        · exact (hrtc hfails).elim
      have hevent : (((s.withClock c.realtime).withClock
          (timespecOfMillis c.time)).publishTimeChangeEvents c.env.steadyTime).timeChanged
          = s.timeChanged ++ [c.env.steadyTime] := by
        rw [SystemTime.publishTimeChangeEvents_timeChanged]
        simp [hregistered]
      refine ⟨fun _ herror => ?_, fun _ => ⟨?_, _, hevent⟩, fun _ => ⟨_, hevent⟩⟩
      · cases herror
      · simpa using exists_timeval_of_sets hsets

/-- **All or nothing, and announced.** For every sequence of calls of `SetTime`, with every time,
    every permission and every outcome of the system calls: each call of the sequence is all or
    nothing and announced exactly when each meets its condition. -/
theorem setTime_allOrNothing_iff (s : SystemTime) (calls : List SetTimeCall) :
    Run.Along SystemTime.callStep
        (fun t c => AllOrNothing (t.withClock c.realtime) c.time (t.call c)) s calls
      ↔ Run.Along SystemTime.callStep AnnouncedOrRefused s calls :=
  @Run.along_congr _ _ _ s calls (fun _ => True) _ _ trivial
    (fun t c _ => allOrNothing_call_iff t c) fun _ _ _ _ => trivial

/-- A device without a wall-clock RTC: the clock is set, the caller is told of an error, and no
    event is published. -/
theorem setTime_without_rtc :
    ¬ AllOrNothing ⟨⟨1000, 0⟩, true, []⟩ 1683325312000
      ((⟨⟨1000, 0⟩, true, []⟩ : SystemTime).setTime 1683325312000
        ⟨true, 0, ⟨-1, -1, true, 0⟩, 7⟩) ∧
    (⟨⟨1000, 0⟩, true, []⟩ : SystemTime).setTime 1683325312000 ⟨true, 0, ⟨-1, -1, true, 0⟩, 7⟩
      = (.error .setRtcFailed, ⟨⟨1683325312, 0⟩, true, []⟩) := by
  have hcall : (⟨⟨1000, 0⟩, true, []⟩ : SystemTime).setTime 1683325312000
      ⟨true, 0, ⟨-1, -1, true, 0⟩, 7⟩
      = (.error .setRtcFailed, ⟨⟨1683325312, 0⟩, true, []⟩) := rfl
  refine ⟨fun h => ?_, hcall⟩
  rw [hcall] at h
  have hclock := (h.failed .setRtcFailed rfl).1
  revert hclock
  decide

end TimeService
