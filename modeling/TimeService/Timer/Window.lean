import TimeService.Timer.Deadline
import TimeService.Timer.SetHandler

namespace TimeService

open Transition

/-!
# Windows

The end of an alarm's window is computed when the timer is started, when it is re-armed after a
trigger, and when it is put back by a rebatch.  The first and the last go by the window length that
the alarm keeps, re-arming goes by the interval.

* `windows_kept`: in runs whose passes trigger only repeating alarms with the window length that
  their interval gives, every pending alarm keeps its window; with sound insertions an exact alarm
  starts its batch;
* `window_widened`: an exact timer with a longer interval gets a window when it repeats;
* `inexact_window_iff`: `SetHandler` counts the time to the trigger of an inexact timer from the
  trigger, which shows exactly for a one-shot timer at least 10 s ahead.
-/

/-! ### The window of `MaxTriggerTime` -/

/-- Three quarters of an interval of at least 10 s, and nothing of a shorter one. -/
def repeatWindow (interval : ℤ) : ℤ :=
  (3 * if interval < minFuzzableInterval then 0 else interval).tdiv 4

theorem repeatWindow_nonneg (interval : ℤ) : 0 ≤ repeatWindow interval := by
  refine Int.tdiv_nonneg ?_ (by decide)
  split
  · decide
  · rename_i hlong
    unfold minFuzzableInterval at hlong
    omega

/-- The window is the one of the interval, or of the time to the trigger where there is none. -/
theorem maxTriggerTime_eq (now triggerAtTime interval : ℤ) :
    maxTriggerTime now triggerAtTime interval = triggerAtTime
      + msToNs (repeatWindow
        (if interval = 0 then durationCastMs (triggerAtTime - now) else interval)) :=
  rfl

/-- Less than 10 s ahead a one-shot alarm has no window. -/
theorem maxTriggerTime_of_near {now triggerAtTime : ℤ} (hle : now ≤ triggerAtTime)
    (h : triggerAtTime < now + msToNs minFuzzableInterval) :
    maxTriggerTime now triggerAtTime 0 = triggerAtTime := by
  have hms : msToNs minFuzzableInterval = 10000000000 := by decide
  have hcast : durationCastMs (triggerAtTime - now) = (triggerAtTime - now) / 1000000 :=
    Int.tdiv_eq_ediv_of_nonneg (by omega)
  rw [hms] at h
  have hshort : (triggerAtTime - now) / 1000000 < minFuzzableInterval := by
    unfold minFuzzableInterval
    omega
  rw [maxTriggerTime_eq, if_pos rfl, hcast, repeatWindow, if_pos hshort]
  exact add_zero _

/-- From 10 s on its window is three quarters of the time to the trigger. -/
theorem maxTriggerTime_of_far {now triggerAtTime : ℤ}
    (h : now + msToNs minFuzzableInterval ≤ triggerAtTime) :
    maxTriggerTime now triggerAtTime 0
      = triggerAtTime + msToNs ((3 * durationCastMs (triggerAtTime - now)).tdiv 4) := by
  have hms : msToNs minFuzzableInterval = 10000000000 := by decide
  have hcast : durationCastMs (triggerAtTime - now) = (triggerAtTime - now) / 1000000 :=
    Int.tdiv_eq_ediv_of_nonneg (by omega)
  rw [hms] at h
  rw [maxTriggerTime_eq, if_pos rfl, repeatWindow, if_neg]
  rw [hcast]
  unfold minFuzzableInterval
  omega

/-- Counted from the trigger itself the window of a one-shot alarm is empty; so is the one counted
    from now exactly when the alarm is due in less than 10 s. -/
theorem maxTriggerTime_nominal_iff {nowElapsed nominalTrigger triggerElapsed : ℤ}
    (hnow : nowElapsed ≤ nominalTrigger) (hraised : nominalTrigger ≤ triggerElapsed)
    (hraised' : triggerElapsed = nominalTrigger ∨
      triggerElapsed ≤ nowElapsed + msToNs minFuturity) :
    maxTriggerTime nominalTrigger triggerElapsed 0 = maxTriggerTime nowElapsed triggerElapsed 0 ↔
      nominalTrigger < nowElapsed + msToNs minFuzzableInterval := by
  have hfuturity : msToNs minFuturity = 5000000000 := by decide
  have hfuzzable : msToNs minFuzzableInterval = 10000000000 := by decide
  rw [maxTriggerTime_of_near hraised (by omega)]
  constructor
  · -- 10 s ahead nothing is raised, and the window counted from now is not empty
    intro heq
    by_contra hfar
    have hahead : nowElapsed + msToNs minFuzzableInterval ≤ triggerElapsed := by omega
    have hcast : durationCastMs (triggerElapsed - nowElapsed)
        = (triggerElapsed - nowElapsed) / 1000000 := Int.tdiv_eq_ediv_of_nonneg (by omega)
    have hquarters : (3 * ((triggerElapsed - nowElapsed) / 1000000)).tdiv 4
        = 3 * ((triggerElapsed - nowElapsed) / 1000000) / 4 :=
      Int.tdiv_eq_ediv_of_nonneg (by omega)
    rw [maxTriggerTime_of_far hahead, hcast, hquarters] at heq
    rw [hfuzzable] at hahead
    unfold msToNs at heq
    omega
  · intro hnear
    rw [maxTriggerTime_of_near (by omega) (by omega)]

/-! ### Alarms that keep their window -/

/-- The window of the alarm is the one its window length says. -/
structure TimerInfo.KeepsWindow (a : TimerInfo) : Prop where
  nonneg : 0 ≤ a.windowLength
  max_eq : a.maxWhenElapsed = a.whenElapsed + msToNs a.windowLength

/-- Re-arming the alarm does not change its window. -/
def TimerInfo.RearmsInWindow (a : TimerInfo) : Prop :=
  0 < a.repeatInterval → a.windowLength = repeatWindow a.repeatInterval

instance (a : TimerInfo) : Decidable a.RearmsInWindow := inferInstanceAs (Decidable (_ → _))

/-- A duration of whole milliseconds survives its cast. -/
private theorem durationCastMs_msToNs (d : ℤ) : durationCastMs (msToNs d) = d :=
  Int.mul_tdiv_cancel d (by decide)

/-- The window length that `SetHandler` stores is the one of its window. -/
theorem setHandlerWindow_spec (nominalTrigger triggerElapsed windowLength interval : ℤ) :
    0 ≤ (setHandlerWindow nominalTrigger triggerElapsed windowLength interval).2 ∧
      (setHandlerWindow nominalTrigger triggerElapsed windowLength interval).1
        = triggerElapsed
          + msToNs (setHandlerWindow nominalTrigger triggerElapsed windowLength interval).2 := by
  unfold setHandlerWindow
  split
  · rename_i hzero
    rw [hzero]
    exact ⟨le_refl 0, (add_zero triggerElapsed).symm⟩
  · split
    · simp only
      rw [maxTriggerTime_eq, add_sub_cancel_left, durationCastMs_msToNs]
      exact ⟨repeatWindow_nonneg _, rfl⟩
    · exact ⟨by omega, rfl⟩

theorem setHandler_keepsWindow {isSystemUid : ℤ → Bool} {nowElapsed : ℤ} {clock : Clock} {id : ℕ}
    {type : ℤ} {triggerAtTime windowLength interval : ℕ} {flag : ℤ} {callback : Callback} {uid : ℤ}
    {alarm : TimerInfo} (h : setHandler isSystemUid nowElapsed clock id type triggerAtTime
      windowLength interval flag callback uid = some alarm) : alarm.KeepsWindow := by
  have hset := setHandler_fields h
  have hspec := setHandlerWindow_spec
    (convertToElapsed clock (milliseconds triggerAtTime) type) alarm.whenElapsed
    (clampedWindowLength (milliseconds windowLength)) alarm.repeatInterval
  rw [← hset.maxWhenElapsed_eq, ← hset.windowLength_eq] at hspec
  exact ⟨hspec.1, hspec.2⟩

/-- A rebatch computes the window from the window length. -/
theorem TimerInfo.KeepsWindow.reAdded {nowElapsed : ℤ} {clock : Clock} {x y : TimerInfo}
    (hx : x.KeepsWindow) (h : x.reAdded nowElapsed clock = some y) : y.KeepsWindow := by
  have hnonneg := hx.nonneg
  unfold TimerInfo.reAdded at h
  simp only at h
  split at h
  · cases h
  · cases h
    refine ⟨hnonneg, ?_⟩
    simp only
    split
    · rename_i hzero
      rw [hzero]
      exact (add_zero _).symm
    · rw [if_pos (by omega)]

/-- Re-arming computes the window from the interval. -/
theorem TimerInfo.KeepsWindow.next_iff {nowElapsed : ℤ} {x : TimerInfo} (hx : x.KeepsWindow)
    (hrepeats : 0 < x.repeatInterval) :
    (x.next nowElapsed).KeepsWindow ↔ x.windowLength = repeatWindow x.repeatInterval := by
  have hmax : (x.next nowElapsed).maxWhenElapsed
      = (x.next nowElapsed).whenElapsed + msToNs (repeatWindow x.repeatInterval) := by
    rw [TimerInfo.next_maxWhenElapsed, maxTriggerTime_eq, if_neg hrepeats.ne']
  have hlength : (x.next nowElapsed).windowLength = x.windowLength := rfl
  constructor
  · rintro ⟨_, hkept⟩
    rw [hmax, hlength] at hkept
    unfold msToNs at hkept
    omega
  · intro heq
    refine ⟨by rw [hlength]; exact hx.nonneg, ?_⟩
    rw [hmax, hlength, heq]

/-! ### Runs -/

/-- The passes trigger only alarms that are re-armed in their window. -/
def RearmsInWindow (_ : System) : Action → Prop
  | .pass triggerList => ∀ a ∈ triggerList, a.RearmsInWindow
  | _ => True

theorem keepsWindow_step {s s' : System} {a : Action} (h : StepCase s a s')
    (hok : RearmsInWindow s a)
    (hinv : ∀ x ∈ pending s.schedule.alarmBatches, x.KeepsWindow)
    (hcall : ∀ alarm, s.entryCall = some (.setHandlerLocked alarm) → alarm.KeepsWindow) :
    ∀ x ∈ pending s'.schedule.alarmBatches, x.KeepsWindow := by
  -- only a pass computes a window without the window length
  refine h.pending_of_pass hinv hcall ?_ (fun _ _ _ _ => TimerInfo.KeepsWindow.reAdded)
  rintro nowElapsed triggerList rfl hlist
  refine Schedule.triggerTimersLocked_forall_of_triggered (Q := TimerInfo.RearmsInWindow) hinv
    ?_ ?_
  · intro y hy
    exact hok y (hlist.1.mem_iff.mpr hy)
  · intro x hx hrepeats hrearms
    exact (hx.next_iff hrepeats).mpr (hrearms hrepeats)

/-- Every alarm, pending or about to be inserted, keeps its window. -/
theorem Reachable.keepsWindow {s : System} (h : Reachable RearmsInWindow s) :
    (∀ x ∈ pending s.schedule.alarmBatches, x.KeepsWindow) ∧
      ∀ alarm, s.entryCall = some (.setHandlerLocked alarm) → alarm.KeepsWindow := by
  refine @Reachable.invariant RearmsInWindow (fun t =>
    (∀ x ∈ pending t.schedule.alarmBatches, x.KeepsWindow) ∧
      ∀ alarm, t.entryCall = some (.setHandlerLocked alarm) → alarm.KeepsWindow) s h ?_ ?_
  · intro bootTime _
    exact ⟨fun _ hx => (List.not_mem_nil hx).elim, fun _ hcall => by cases hcall⟩
  · rintro t a t' ⟨hinv, hcall⟩ hok hcase
    exact ⟨keepsWindow_step hcase hok hinv hcall,
      hcase.called hcall fun _ _ _ _ _ _ _ _ => setHandler_keepsWindow⟩

/-- **Windows.** In every reachable state of a run whose passes trigger only alarms that are
    re-armed in their window: every pending alarm has the window its window length says, an exact
    one none; and if all insertions were sound as well, the batch of an exact alarm starts at its
    time. -/
theorem windows_kept {s : System} (h : Reachable RearmsInWindow s) :
    (∀ a ∈ pending s.schedule.alarmBatches,
      0 ≤ a.windowLength ∧ a.maxWhenElapsed = a.whenElapsed + msToNs a.windowLength) ∧
    ((∀ i ∈ s.schedule.insertions, i.Sound) →
      ∀ b ∈ s.schedule.alarmBatches, ∀ a ∈ b.alarms, a.windowLength = 0 →
        b.start = a.whenElapsed) := by
  have hkeeps := h.keepsWindow.1
  refine ⟨fun a ha => ⟨(hkeeps a ha).nonneg, (hkeeps a ha).max_eq⟩, ?_⟩
  intro hsound b hb a ha hexact
  have hmax := (hkeeps a (List.mem_flatMap.mpr ⟨b, hb, ha⟩)).max_eq
  rw [hexact] at hmax
  -- the batch starts no later than the deadline of any of its alarms
  have hdeadline := (h.always.holdsIfSound.1.2 hsound b hb).deadline a ha
  have hstart := (h.batches_wf b hb).whenElapsed_le_start ha
  unfold msToNs at hmax
  omega

/-- The condition on passes, as a check. -/
def rearmsInWindowCheck (_ : System) : Action → Bool
  | .pass triggerList => triggerList.all fun a => decide a.RearmsInWindow
  | _ => true

theorem rearmsInWindow_of_check (s : System) (a : Action) (h : rearmsInWindowCheck s a = true) :
    RearmsInWindow s a := by
  cases a with
  | pass triggerList =>
    intro x hx
    exact of_decide_eq_true (List.all_eq_true.mp h x hx)
  | _ => trivial

/-- An exact timer for every five seconds, after its first repetition. -/
theorem windows_kept_repeated :
    ∃ s : System, pending s.schedule.alarmBatches ≠ [] ∧
      ∀ a ∈ pending s.schedule.alarmBatches,
        0 ≤ a.windowLength ∧ a.maxWhenElapsed = a.whenElapsed + msToNs a.windowLength := by
  let alarm := (TimerInfo.make 1 3 100000 100000000000 0 100000000000 5000 (some 0) 0 0).triggered
    100000000000
  obtain ⟨s, hs, hcheck⟩ := exists_reachable rearmsInWindow_of_check
    (by decide : (0 : ℤ) < 1000000000)
    (.createTimer [1] 3 0 5000 0 (some 0) 0 ::
      startTimerCall 1 100000 (fun _ => true) ⟨1000000000, 0⟩ ++ [.advance 100000000000] ++
      expiryIteration 3 ⟨100000000000, 0⟩ [alarm])
    (fun s => decide (pending s.schedule.alarmBatches ≠ []))
    (by decide +kernel)
  exact ⟨s, of_decide_eq_true hcheck, (windows_kept hs).1⟩

/-- An exact timer for every minute has a window of 45 s from its first repetition on. -/
theorem window_widened :
    ¬ ∀ s : System, Reachable Always s → ∀ a ∈ pending s.schedule.alarmBatches,
      0 ≤ a.windowLength ∧ a.maxWhenElapsed = a.whenElapsed + msToNs a.windowLength := by
  intro hclaim
  let alarm := (TimerInfo.make 1 3 100000 100000000000 0 100000000000 60000 (some 0) 0 0).triggered
    100000000000
  obtain ⟨s, hs, hcheck⟩ := exists_reached
    (.createTimer [1] 3 0 60000 0 (some 0) 0 ::
      startTimerCall 1 100000 (fun _ => true) ⟨1000000000, 0⟩ ++ [.advance 100000000000] ++
      expiryIteration 3 ⟨100000000000, 0⟩ [alarm])
    (fun s => (pending s.schedule.alarmBatches).any fun a =>
      a.windowLength = 0 ∧ a.maxWhenElapsed = a.whenElapsed + 45000000000)
    (by decide +kernel)
  obtain ⟨a, ha, hfields⟩ := List.any_eq_true.mp hcheck
  obtain ⟨hexact, hmax⟩ := of_decide_eq_true hfields
  have hkept := (hclaim s hs a ha).2
  rw [hexact] at hkept
  unfold msToNs at hkept
  omega

/-! ### Inexact timers -/

/-- The alarm has the window that a rebatch at `nowElapsed` computes for an inexact one. -/
structure TimerInfo.InexactWindow (nowElapsed : ℤ) (alarm : TimerInfo) : Prop where
  max_eq : alarm.maxWhenElapsed
    = maxTriggerTime nowElapsed alarm.whenElapsed alarm.repeatInterval
  oneShot : alarm.repeatInterval = 0 →
    nowElapsed + msToNs minFuzzableInterval ≤ alarm.whenElapsed →
    alarm.maxWhenElapsed = alarm.whenElapsed
      + msToNs ((3 * durationCastMs (alarm.whenElapsed - nowElapsed)).tdiv 4)
  repeating : minFuzzableInterval ≤ alarm.repeatInterval →
    alarm.maxWhenElapsed = alarm.whenElapsed + msToNs ((3 * alarm.repeatInterval).tdiv 4)

/-- The rule gives both windows. -/
theorem TimerInfo.inexactWindow_iff {nowElapsed : ℤ} {alarm : TimerInfo} :
    alarm.InexactWindow nowElapsed ↔ alarm.maxWhenElapsed
      = maxTriggerTime nowElapsed alarm.whenElapsed alarm.repeatInterval := by
  refine ⟨fun h => h.max_eq, fun hmax => ⟨hmax, fun hzero hfar => ?_, fun hlong => ?_⟩⟩
  · rw [hmax, hzero, maxTriggerTime_of_far hfar]
  · have hne : alarm.repeatInterval ≠ 0 := by
      unfold minFuzzableInterval at hlong
      omega
    rw [hmax, maxTriggerTime_eq, if_neg hne, repeatWindow, if_neg (not_lt.mpr hlong)]

/-- What `ReAddTimerLocked` puts back with a negative window length has that window. -/
theorem TimerInfo.reAdded_inexactWindow {nowElapsed : ℤ} {clock : Clock} {x y : TimerInfo}
    (hnegative : x.windowLength < 0) (h : x.reAdded nowElapsed clock = some y) :
    y.InexactWindow nowElapsed := by
  rw [TimerInfo.inexactWindow_iff]
  unfold TimerInfo.reAdded at h
  simp only at h
  split at h
  · cases h
  · cases h
    simp only
    rw [if_neg (by omega), if_neg (by omega)]

/-- The clamps keep a zero interval zero, and no other. -/
private theorem clampedInterval_eq_zero (system : Bool) (i : ℤ) :
    clampedInterval system i = 0 ↔ i = 0 := by
  by_cases hi : 0 ≤ i
  · exact (clampedInterval_spec system hi).1
  · rw [clampedInterval_of_neg system (by omega)]

/-- `SetHandler` counts the time to the trigger from the nominal trigger time. -/
private theorem setHandler_inexact_max {isSystemUid : ℤ → Bool} {nowElapsed : ℤ} {clock : Clock}
    {id : ℕ} {type : ℤ} {triggerAtTime windowLength interval : ℕ} {flag : ℤ} {callback : Callback}
    {uid : ℤ} {alarm : TimerInfo} (h : setHandler isSystemUid nowElapsed clock id type
      triggerAtTime windowLength interval flag callback uid = some alarm)
    (hinexact : milliseconds windowLength < 0) :
    alarm.maxWhenElapsed
      = maxTriggerTime (convertToElapsed clock (milliseconds triggerAtTime) type)
        alarm.whenElapsed alarm.repeatInterval := by
  have hclamp : clampedWindowLength (milliseconds windowLength) = milliseconds windowLength := by
    have hhalf : 0 < intervalHalfDay := by decide
    rw [clampedWindowLength, if_neg (by omega)]
  rw [(setHandler_fields h).maxWhenElapsed_eq, hclamp, setHandlerWindow, if_neg hinexact.ne,
    if_pos hinexact]

/-- **Windows of inexact timers.** For all arguments and readings with which `SetHandler` sets an
    inexact alarm: it has the window that a rebatch computes at the same time exactly when the timer
    repeats or is due in less than 10 s. -/
theorem inexact_window_iff {isSystemUid : ℤ → Bool} {nowElapsed : ℤ} {clock : Clock} {id : ℕ}
    {type : ℤ} {triggerAtTime windowLength interval : ℕ} {flag : ℤ} {callback : Callback} {uid : ℤ}
    {alarm : TimerInfo} (h : setHandler isSystemUid nowElapsed clock id type triggerAtTime
      windowLength interval flag callback uid = some alarm)
    (hinexact : milliseconds windowLength < 0) :
    alarm.InexactWindow nowElapsed ↔
      milliseconds interval ≠ 0 ∨ convertToElapsed clock (milliseconds triggerAtTime) type
        < nowElapsed + msToNs minFuzzableInterval := by
  have hset := setHandler_fields h
  have hnominal := hset.not_past
  obtain ⟨hraised, hraised'⟩ := raisedTrigger_bounds (isSystemUid uid) hnominal
  rw [← hset.whenElapsed_eq] at hraised hraised'
  have hrepeat : alarm.repeatInterval = 0 ↔ milliseconds interval = 0 := by
    rw [hset.repeatInterval_eq, clampedInterval_eq_zero]
  have hmax := setHandler_inexact_max h hinexact
  rw [TimerInfo.inexactWindow_iff, hmax]
  by_cases hzero : alarm.repeatInterval = 0
  · have hone : ¬ milliseconds interval ≠ 0 := not_not.mpr (hrepeat.mp hzero)
    rw [hzero, maxTriggerTime_nominal_iff hnominal hraised hraised', or_iff_right hone]
  · -- the window of a repeating timer does not depend on now
    have hne : milliseconds interval ≠ 0 := fun heq => hzero (hrepeat.mpr heq)
    rw [maxTriggerTime_eq, maxTriggerTime_eq, if_neg hzero, if_neg hzero]
    exact ⟨fun _ => .inl hne, fun _ => rfl⟩

/-- An inexact timer for every minute. -/
theorem inexact_window_repeating :
    ∃ alarm, setHandler (fun _ => false) 0 ⟨0, 0⟩ 1 3 30000 18446744073709551615 60000 0 none 20010
        = some alarm ∧ alarm.InexactWindow 0 := by
  have hset : (setHandler (fun _ => false) 0 ⟨0, 0⟩ 1 3 30000 18446744073709551615 60000 0 none
      20010).isSome = true := by decide
  obtain ⟨alarm, halarm⟩ := Option.isSome_iff_exists.mp hset
  exact ⟨alarm, halarm, (inexact_window_iff halarm (by decide)).mpr (.inl (by decide))⟩

/-- An inexact timer for once in half a minute has no window. -/
theorem inexact_window_lost :
    ¬ ∀ (isSystemUid : ℤ → Bool) (nowElapsed : ℤ) (clock : Clock) (id : ℕ) (type : ℤ)
      (triggerAtTime windowLength interval : ℕ) (flag : ℤ) (callback : Callback) (uid : ℤ)
      (alarm : TimerInfo),
      setHandler isSystemUid nowElapsed clock id type triggerAtTime windowLength interval flag
        callback uid = some alarm → milliseconds windowLength < 0 → 0 ≤ milliseconds interval →
      alarm.InexactWindow nowElapsed := by
  intro hclaim
  have hset : (setHandler (fun _ => false) 0 ⟨0, 0⟩ 1 3 30000 18446744073709551615 0 0 none
      20010).map (fun alarm => (alarm.maxWhenElapsed, alarm.whenElapsed, alarm.repeatInterval))
        = some (30000000000, 30000000000, 0) := by decide
  obtain ⟨alarm, halarm, hfields⟩ := Option.map_eq_some_iff.mp hset
  obtain ⟨hmax, helapsed, hrepeat⟩ : alarm.maxWhenElapsed = 30000000000 ∧
      alarm.whenElapsed = 30000000000 ∧ alarm.repeatInterval = 0 := by simpa using hfields
  have hwindow := (hclaim _ _ _ _ _ _ _ _ _ _ _ alarm halarm (by decide) (by decide)).max_eq
  rw [hmax, helapsed, hrepeat] at hwindow
  revert hwindow
  decide

end TimeService
