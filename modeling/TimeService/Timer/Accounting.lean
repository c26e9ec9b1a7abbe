import TimeService.Timer.Agreement

namespace TimeService

open Transition

/-!
# Accounting for alarms

Where alarms go: which operation may lose one, and which adds one.

* `none_lost`: an operation accounts for every alarm (it stays pending, is triggered, or is removed
  for its own id) exactly when a rebatch in it puts every alarm back; `ReAddTimerLocked` drops
  those whose converted time has passed;
* `one_schedule`: one alarm per timer, as long as no timer is started that still has one.
-/

/-! ### No lost alarm -/

/-- What triggering and rebatching leave alone of an alarm, as the alarm with the rest zeroed. -/
def TimerInfo.identity (a : TimerInfo) : TimerInfo :=
  { a with count := 0, when := 0, whenElapsed := 0, maxWhenElapsed := 0 }

/-- The alarms that are pending, that passes have triggered and that stops have removed. -/
def System.accounted (s : System) : List TimerInfo :=
  (pending s.schedule.alarmBatches ++ s.triggered ++ s.removed).map TimerInfo.identity

/-- No alarm is accounted for less often.  A pass adds its trigger list to the triggered alarms and
    a stop the alarms of its own id to the removed ones, so what was pending and is not any more
    is in one of the two. -/
def NoneLost (s s' : System) : Prop := ∀ x, s.accounted.count x ≤ s'.accounted.count x

/-- The time of every alarm, converted anew by its re-adding, has not passed. -/
def ReAddsAll (nowElapsed : ℤ) (clocks : ℕ → Clock) (timers : List TimerInfo) : Prop :=
  ∀ i (hi : i < timers.length),
    nowElapsed ≤ convertToElapsed (clocks i) timers[i].origWhen timers[i].type

instance (nowElapsed : ℤ) (clocks : ℕ → Clock) (timers : List TimerInfo) :
    Decidable (ReAddsAll nowElapsed clocks timers) :=
  inferInstanceAs (Decidable (∀ i (_ : i < timers.length), _))

/-- If the step rebatches (a stop whose id has an alarm in the last batch, or a clock change that
    the looper acts on), then all alarms are put back. -/
def KeepsAlarms (s : System) : Action → Prop
  | .removeHandler clocks => ∀ timerNumber uid needDestroy,
      s.entryCall = some (.removeHandler timerNumber uid needDestroy) →
      LastHolds timerNumber s.schedule.alarmBatches →
      ReAddsAll s.bootTime clocks
        ((pending s.schedule.alarmBatches).filter fun a => a.id ≠ timerNumber)
  | .timeChange clocks => ∀ result nowRtc nowElapsed,
      s.looper = .woken result nowRtc nowElapsed →
      (result &&& timeChangedMask ≠ 0#32 ∧ s.clockChanged nowRtc nowElapsed = true) →
      ReAddsAll s.bootTime clocks (pending s.schedule.alarmBatches)
  | _ => True

theorem reAddsAll_cons {nowElapsed : ℤ} {clocks : ℕ → Clock} {timer : TimerInfo}
    {rest : List TimerInfo} :
    ReAddsAll nowElapsed clocks (timer :: rest) ↔
      nowElapsed ≤ convertToElapsed (clocks 0) timer.origWhen timer.type ∧
        ReAddsAll nowElapsed (fun i => clocks (i + 1)) rest := by
  constructor
  · intro h
    exact ⟨h 0 (by simp), fun i hi => h (i + 1) (by simpa using hi)⟩
  · rintro ⟨hfirst, hrest⟩ i hi
    cases i with
    | zero => exact hfirst
    | succ i => exact hrest i (by simpa using hi)

/-- `ReAddTimerLocked` puts an alarm back, under its identity, exactly when its time has not
    passed. -/
theorem TimerInfo.reAdded_cases (nowElapsed : ℤ) (clock : Clock) (x : TimerInfo) :
    (convertToElapsed clock x.origWhen x.type < nowElapsed ∧ x.reAdded nowElapsed clock = none) ∨
    (nowElapsed ≤ convertToElapsed clock x.origWhen x.type ∧
      ∃ y, x.reAdded nowElapsed clock = some y ∧ y.identity = x.identity) := by
  unfold TimerInfo.reAdded
  simp only
  split
  · exact .inl ⟨‹_›, rfl⟩
  · exact .inr ⟨by omega, _, rfl, rfl⟩

theorem reAddedAll_length_le (nowElapsed : ℤ) (clocks : ℕ → Clock) (timers : List TimerInfo) :
    (reAddedAll nowElapsed clocks timers).length ≤ timers.length := by
  induction timers generalizing clocks with
  | nil => exact Nat.le_refl _
  | cons timer rest ih =>
    have hrest := ih fun i => clocks (i + 1)
    rw [reAddedAll, List.length_append, List.length_cons]
    cases timer.reAdded nowElapsed (clocks 0) <;> simp <;> omega

/-- A rebatch puts as many alarms back as there were exactly when it puts all of them back. -/
theorem reAddedAll_length_eq_iff (nowElapsed : ℤ) (clocks : ℕ → Clock)
    (timers : List TimerInfo) :
    (reAddedAll nowElapsed clocks timers).length = timers.length ↔
      ReAddsAll nowElapsed clocks timers := by
  induction timers generalizing clocks with
  | nil => simp [reAddedAll, ReAddsAll]
  | cons timer rest ih =>
    rw [reAddsAll_cons, ← ih, reAddedAll, List.length_append, List.length_cons]
    rcases timer.reAdded_cases nowElapsed (clocks 0) with ⟨hpast, hnone⟩ | ⟨hlater, y, hy, _⟩
    · have hle := reAddedAll_length_le nowElapsed (fun i => clocks (i + 1)) rest
      rw [hnone]
      simp only [Option.toList_none, List.length_nil, Nat.zero_add]
      omega
    · rw [hy]
      simp only [Option.toList_some, List.length_singleton]
      omega

theorem reAddedAll_identity {nowElapsed : ℤ} {clocks : ℕ → Clock} {timers : List TimerInfo}
    (h : ReAddsAll nowElapsed clocks timers) :
    (reAddedAll nowElapsed clocks timers).map TimerInfo.identity
      = timers.map TimerInfo.identity := by
  induction timers generalizing clocks with
  | nil => rfl
  | cons timer rest ih =>
    obtain ⟨hfirst, hrest⟩ := reAddsAll_cons.mp h
    rcases timer.reAdded_cases nowElapsed (clocks 0) with ⟨hpast, _⟩ | ⟨_, y, hy, hid⟩
    · omega
    · rw [reAddedAll, List.map_append, ih hrest, hy, List.map_cons]
      simp [hid]

/-- **Rebatching loses nothing** exactly when it puts all alarms back, whatever else is
    accounted for. -/
theorem Schedule.rebatch_noneLost_iff (s : Schedule) (nowElapsed : ℤ) (clocks : ℕ → Clock)
    (other : List TimerInfo) :
    (∀ x, ((pending s.alarmBatches ++ other).map TimerInfo.identity).count x
      ≤ ((pending (s.reBatchAllTimersLocked nowElapsed clocks).alarmBatches ++ other).map
          TimerInfo.identity).count x) ↔
      ReAddsAll nowElapsed clocks (pending s.alarmBatches) := by
  have hperm := s.reBatchAllTimersLocked_pending nowElapsed clocks
  constructor
  · -- no identity is lost only if none of the alarms is
    intro h
    have hsub := (List.subperm_ext_iff.mpr fun x _ => h x).length_le
    have hle := reAddedAll_length_le nowElapsed clocks (pending s.alarmBatches)
    rw [List.length_map, List.length_map, List.length_append, List.length_append,
      hperm.length_eq] at hsub
    rw [← reAddedAll_length_eq_iff]
    omega
  · intro h x
    have hmap := (hperm.map TimerInfo.identity).count_eq x
    rw [reAddedAll_identity h] at hmap
    rw [List.map_append, List.map_append, List.count_append, List.count_append, hmap]

theorem System.count_accounted (s : System) (x : TimerInfo) :
    s.accounted.count x = ((pending s.schedule.alarmBatches).map TimerInfo.identity).count x
      + (s.triggered.map TimerInfo.identity).count x
      + (s.removed.map TimerInfo.identity).count x := by
  rw [System.accounted, List.map_append, List.map_append, List.count_append, List.count_append]

/-- A pass accounts for every alarm. -/
theorem System.trigger_noneLost {s : System} {nowElapsed : ℤ} {triggerList : List TimerInfo}
    (h : s.TriggerList nowElapsed triggerList) : NoneLost s (s.trigger nowElapsed triggerList) := by
  intro x
  obtain ⟨popped, hlist, hperm⟩ := s.schedule.triggerTimersLocked_pending nowElapsed
  have hcount := (hperm.map TimerInfo.identity).count_eq x
  have hraw : triggerList.Perm (popped.map (TimerInfo.triggered nowElapsed)) := by
    rw [← hlist]
    exact h.1
  have hfired := (hraw.map TimerInfo.identity).count_eq x
  have hsame : (popped.map (TimerInfo.triggered nowElapsed)).map TimerInfo.identity
      = popped.map TimerInfo.identity := by
    rw [List.map_map]
    rfl
  rw [hsame] at hfired
  simp only [List.map_append, List.count_append] at hcount
  rw [System.count_accounted, System.count_accounted]
  have hafter : ((s.trigger nowElapsed triggerList).triggered.map TimerInfo.identity).count x
      = (s.triggered.map TimerInfo.identity).count x
        + (triggerList.map TimerInfo.identity).count x := by
    rw [← List.count_append, ← List.map_append]
    rfl
  have hpending : (pending (s.trigger nowElapsed triggerList).schedule.alarmBatches)
      = pending (s.schedule.triggerTimersLocked nowElapsed).schedule.alarmBatches := rfl
  have hremoved : (s.trigger nowElapsed triggerList).removed = s.removed := rfl
  rw [hafter, hpending, hremoved]
  omega

/-- The alarms of an id and the others are, identity by identity, all alarms. -/
private theorem count_identity_filter (alarms : List TimerInfo) (id : ℕ) (x : TimerInfo) :
    (alarms.map TimerInfo.identity).count x
      = ((alarms.filter fun a => a.id ≠ id).map TimerInfo.identity).count x
        + ((alarms.filter fun a => a.id = id).map TimerInfo.identity).count x := by
  rw [← List.count_append, ← List.map_append]
  apply List.Perm.count_eq
  apply List.Perm.map
  have hperm := List.filter_append_perm (fun a : TimerInfo => a.id ≠ id) alarms
  simpa using hperm.symm

/-- A stop accounts for every alarm exactly when its rebatch does, if it makes one. -/
theorem System.removeHandler_noneLost_iff (s : System) (timerNumber : ℕ) (uid : ℤ)
    (needDestroy : Bool) (clocks : ℕ → Clock) :
    NoneLost s (s.removeHandler timerNumber uid needDestroy clocks) ↔
      (LastHolds timerNumber s.schedule.alarmBatches →
        ReAddsAll s.bootTime clocks
          ((pending s.schedule.alarmBatches).filter fun a => a.id ≠ timerNumber)) := by
  let kept := (pending s.schedule.alarmBatches).filter fun a => a.id ≠ timerNumber
  let gone := (pending s.schedule.alarmBatches).filter fun a => a.id = timerNumber
  -- what is accounted for beside the pending alarms
  let other := s.triggered ++ s.removed ++ gone
  have hbefore : ∀ x, s.accounted.count x
      = ((kept ++ other).map TimerInfo.identity).count x := by
    intro x
    rw [System.count_accounted, count_identity_filter _ timerNumber]
    simp only [other, kept, gone, List.map_append, List.count_append]
    omega
  have hafter : ∀ x, (s.removeHandler timerNumber uid needDestroy clocks).accounted.count x
      = ((pending (s.schedule.removeLocked timerNumber s.bootTime clocks).alarmBatches
          ++ other).map TimerInfo.identity).count x := by
    intro x
    rw [System.count_accounted]
    simp only [other, gone, List.map_append, List.count_append, System.removeHandler]
    omega
  unfold NoneLost
  simp only [hbefore, hafter]
  rw [lastHolds_iff]
  rcases s.schedule.removeLocked_cases timerNumber s.bootTime clocks with
    ⟨hdid, heq⟩ | ⟨hdid, heq⟩
  · have hrebatch := Schedule.rebatch_noneLost_iff
      { s.schedule with
        alarmBatches := (removeBatches timerNumber s.schedule.alarmBatches false).1 }
      s.bootTime clocks other
    rw [heq, hdid]
    simp only [removeBatches_pending] at hrebatch
    simpa [kept] using hrebatch
  · -- without a rebatch the alarms of other ids stay as they are
    rw [heq, hdid]
    simp only [removeBatches_pending]
    simp [kept]

/-- **No lost alarm, one step.** -/
theorem StepCase.noneLost_iff {s s' : System} {a : Action} (h : StepCase s a s') :
    NoneLost s s' ↔ KeepsAlarms s a := by
  cases h with
  | insert alarm hcall =>
    refine iff_of_true (fun x => ?_) trivial
    have hperm := insertAndBatch_pending s.schedule.alarmBatches alarm
    rw [← Schedule.setHandlerLocked_alarmBatches s.schedule alarm false] at hperm
    have hcount := (hperm.map TimerInfo.identity).count_eq x
    rw [List.map_cons, List.count_cons] at hcount
    rw [System.count_accounted, System.count_accounted]
    simp only [System.setHandlerLocked]
    omega
  | remove timerNumber uid needDestroy clocks hcall =>
    rw [System.removeHandler_noneLost_iff]
    constructor
    · intro h k kuid nd hk
      rw [hcall] at hk
      cases hk
      exact h
    · intro h
      exact h timerNumber uid needDestroy hcall
  | rebatch result nowRtc nowElapsed clocks hlooper hchanged =>
    have hrebatch := s.schedule.rebatch_noneLost_iff s.bootTime clocks (s.triggered ++ s.removed)
    unfold NoneLost System.accounted
    simp only [List.append_assoc] at hrebatch ⊢
    rw [hrebatch]
    constructor
    · intro h _ _ _ _ _
      exact h
    · intro h
      exact h result nowRtc nowElapsed hlooper hchanged
  | clockKept result nowRtc nowElapsed clocks hlooper hkept =>
    apply iff_of_true fun x => Nat.le_refl _
    intro r t e hl hchanged
    rw [hlooper] at hl
    cases hl
    exact absurd hchanged hkept
  | trigger result nowElapsed triggerList hlooper hlist =>
    exact iff_of_true (System.trigger_noneLost hlist) trivial
  | idle _ hreturn =>
    apply iff_of_true fun x => Nat.le_refl _
    cases a <;> trivial
  | stop timerNumber entry needDestroy =>
    apply iff_of_true fun x => Nat.le_refl _
    cases needDestroy <;> trivial
  | _ => exact iff_of_true (fun x => Nat.le_refl _) trivial

/-- **No lost alarm.** In every state, reachable or not, an operation accounts for every alarm
    exactly when a rebatch in it puts every alarm back; and every run whose steps do so accounts
    for every alarm that was pending at its start. -/
theorem none_lost (s : System) :
    (∀ a s', s.step a = some s' → (NoneLost s s' ↔ KeepsAlarms s a)) ∧
      ∀ s', Reaches System.step KeepsAlarms s s' → NoneLost s s' := by
  refine ⟨fun a s' hstep => (System.stepCase hstep).noneLost_iff, fun s' hrun => ?_⟩
  refine @Reaches.invariant _ _ _ _ _ _ (fun t => NoneLost s t) hrun ?_ fun x => Nat.le_refl _
  intro t a t' ht hok hstep x
  exact (ht x).trans ((System.stepCase hstep).noneLost_iff.mpr hok x)

/-- A stop that rebatches a later alarm loses nothing. -/
theorem none_lost_stop :
    ∃ (s s' : System) (a : Action), s.step a = some s' ∧
      (pending s.schedule.alarmBatches).map TimerInfo.id = [1, 2] ∧
      (pending s'.schedule.alarmBatches).map TimerInfo.id = [1] ∧ NoneLost s s' := by
  obtain ⟨s, _, hcheck⟩ := exists_reached
    ([.createTimer [1] 3 0 0 0 (some 0) 0, .createTimer [2] 3 0 0 0 (some 0) 0] ++
      startTimerCall 1 100000 (fun _ => true) ⟨1000000000, 0⟩ ++
      startTimerCall 2 200000 (fun _ => true) ⟨1000000000, 0⟩ ++ [.stopTimer 2])
    (fun s => s.entryCall = some (.removeHandler 2 0 false) &&
      decide (ReAddsAll s.bootTime (fun _ => ⟨1000000000, 0⟩)
        ((pending s.schedule.alarmBatches).filter fun a => a.id ≠ 2)) &&
      decide ((pending s.schedule.alarmBatches).map TimerInfo.id = [1, 2]) &&
      (s.step (.removeHandler fun _ => ⟨1000000000, 0⟩)).any fun (s' : System) =>
        (pending s'.schedule.alarmBatches).map TimerInfo.id = [1])
    (by decide +kernel)
  simp only [Bool.and_eq_true, decide_eq_true_eq, Option.any_eq_true] at hcheck
  obtain ⟨⟨⟨hcall, hreAdds⟩, htwo⟩, s', hstep, hone⟩ := hcheck
  refine ⟨s, s', _, hstep, htwo, hone, ((none_lost s).1 _ s' hstep).mpr ?_⟩
  intro timerNumber uid needDestroy h _
  rw [hcall] at h
  cases h
  exact hreAdds

/-- An alarm of an ordinary application for the next second is put off by five.  Stopping a later
    timer after two seconds drops it: its time of request has passed. -/
theorem alarm_lost :
    ¬ ∀ (s s' : System) (a : Action), Reachable Always s → s.step a = some s' →
      NoneLost s s' := by
  intro hclaim
  obtain ⟨s, hs, hcheck⟩ := exists_reached
    ([.createTimer [1] 3 0 0 0 (some 0) 0, .createTimer [2] 3 0 0 0 (some 0) 0] ++
      startTimerCall 1 2000 (fun _ => false) ⟨1000000000, 0⟩ ++
      startTimerCall 2 100000 (fun _ => false) ⟨1000000000, 0⟩ ++
      [.advance 3000000000, .stopTimer 2])
    (fun s => decide (s.accounted.length = 2) &&
      (s.step (.removeHandler fun _ => ⟨3000000000, 0⟩)).any fun (s' : System) =>
        s'.accounted.length = 1)
    (by decide +kernel)
  simp only [Bool.and_eq_true, decide_eq_true_eq, Option.any_eq_true] at hcheck
  obtain ⟨htwo, s', hstep, hone⟩ := hcheck
  have hle := (List.subperm_ext_iff.mpr fun x _ => hclaim s s' _ hs hstep x).length_le
  omega

/-! ### One schedule per timer -/

/-- The number of pending alarms of a timer. -/
def System.scheduled (s : System) (timerNumber : ℕ) : ℕ :=
  (pending s.schedule.alarmBatches).countP fun a => a.id = timerNumber

/-- `StartTimer` is called only for a timer that has no pending alarm. -/
def StartsIdle (s : System) : Action → Prop
  | .startTimer timerNumber _ _ _ => s.scheduled timerNumber = 0
  | _ => True

theorem countP_reAddedAll_le (nowElapsed : ℤ) (clocks : ℕ → Clock) (timers : List TimerInfo)
    (timerNumber : ℕ) :
    (reAddedAll nowElapsed clocks timers).countP (fun a => a.id = timerNumber)
      ≤ timers.countP fun a => a.id = timerNumber := by
  induction timers generalizing clocks with
  | nil => exact Nat.le_refl _
  | cons timer rest ih =>
    have hrest := ih fun i => clocks (i + 1)
    rw [reAddedAll, List.countP_append, List.countP_cons]
    cases hread : timer.reAdded nowElapsed (clocks 0) with
    | none =>
      rw [Option.toList_none, List.countP_nil]
      omega
    | some y =>
      rw [Option.toList_some, List.countP_singleton, TimerInfo.reAdded_id hread]
      omega

theorem Schedule.rebatch_countP_le (s : Schedule) (nowElapsed : ℤ) (clocks : ℕ → Clock)
    (timerNumber : ℕ) :
    (pending (s.reBatchAllTimersLocked nowElapsed clocks).alarmBatches).countP
        (fun a => a.id = timerNumber)
      ≤ (pending s.alarmBatches).countP fun a => a.id = timerNumber := by
  rw [(s.reBatchAllTimersLocked_pending nowElapsed clocks).countP_eq]
  exact countP_reAddedAll_le nowElapsed clocks _ timerNumber

/-- A pass replaces an alarm by at most one. -/
theorem Schedule.trigger_countP_le (s : Schedule) (nowElapsed : ℤ) (timerNumber : ℕ) :
    (pending (s.triggerTimersLocked nowElapsed).schedule.alarmBatches).countP
        (fun a => a.id = timerNumber)
      ≤ (pending s.alarmBatches).countP fun a => a.id = timerNumber := by
  obtain ⟨popped, _, hperm⟩ := s.triggerTimersLocked_pending nowElapsed
  have hcount := hperm.countP_eq fun a => a.id = timerNumber
  have harmed : ((popped.filter TimerInfo.repeats).map (TimerInfo.next nowElapsed)).countP
      (fun a => a.id = timerNumber) ≤ popped.countP fun a => a.id = timerNumber := by
    rw [List.countP_map]
    exact List.filter_sublist.countP_le
  rw [List.countP_append, List.countP_append] at hcount
  omega

theorem Schedule.remove_countP_le (s : Schedule) (id : ℕ) (nowElapsed : ℤ) (clocks : ℕ → Clock)
    (timerNumber : ℕ) :
    (pending (s.removeLocked id nowElapsed clocks).alarmBatches).countP
        (fun a => a.id = timerNumber)
      ≤ (pending s.alarmBatches).countP fun a => a.id = timerNumber := by
  have hkept : (pending (removeBatches id s.alarmBatches false).1).countP
      (fun a => a.id = timerNumber) ≤ (pending s.alarmBatches).countP
        fun a => a.id = timerNumber := by
    rw [removeBatches_pending]
    exact List.filter_sublist.countP_le
  rcases s.removeLocked_cases id nowElapsed clocks with ⟨_, heq⟩ | ⟨_, heq⟩
  · rw [heq]
    exact (Schedule.rebatch_countP_le _ nowElapsed clocks timerNumber).trans hkept
  · rw [heq]
    exact hkept

/-- The insertion of a start adds one alarm to its timer. -/
theorem System.scheduled_setHandlerLocked (s : System) (alarm : TimerInfo) (timerNumber : ℕ) :
    (s.setHandlerLocked alarm).scheduled timerNumber
      = s.scheduled timerNumber + if alarm.id = timerNumber then 1 else 0 := by
  have hperm := insertAndBatch_pending s.schedule.alarmBatches alarm
  rw [← Schedule.setHandlerLocked_alarmBatches s.schedule alarm false] at hperm
  have hcount := hperm.countP_eq fun a => a.id = timerNumber
  rw [List.countP_cons] at hcount
  simpa [System.scheduled, System.setHandlerLocked] using hcount

/-- **Schedules, one step.** Only the insertion of a start adds an alarm. -/
theorem StepCase.scheduled {s s' : System} {a : Action} (h : StepCase s a s') :
    (∃ alarm, a = .setHandlerLocked ∧ s.entryCall = some (.setHandlerLocked alarm) ∧
      s' = s.setHandlerLocked alarm) ∨
    ∀ timerNumber, s'.scheduled timerNumber ≤ s.scheduled timerNumber := by
  cases h with
  | insert alarm hcall => exact .inl ⟨alarm, rfl, hcall, rfl⟩
  | remove id uid needDestroy clocks =>
    exact .inr fun timerNumber =>
      Schedule.remove_countP_le s.schedule id s.bootTime clocks timerNumber
  | rebatch result nowRtc nowElapsed clocks =>
    exact .inr fun timerNumber =>
      Schedule.rebatch_countP_le s.schedule s.bootTime clocks timerNumber
  | trigger result nowElapsed triggerList =>
    exact .inr fun timerNumber => Schedule.trigger_countP_le s.schedule nowElapsed timerNumber
  | _ => exact .inr fun _ => Nat.le_refl _

/-- No timer has two alarms, counting the one of a start that waits for `mutex_`. -/
structure System.OneSchedule (s : System) : Prop where
  agrees : s.Agrees
  pending : ∀ timerNumber, s.scheduled timerNumber ≤ 1
  called : ∀ alarm, s.entryCall = some (.setHandlerLocked alarm) → s.scheduled alarm.id = 0

theorem System.OneSchedule.step {s s' : System} {a : Action} (h : s.OneSchedule)
    (hok : StartsIdle s a) (hcase : StepCase s a s') : s'.OneSchedule := by
  have hagrees := h.agrees.step hcase
  rcases hcase.scheduled with ⟨alarm, rfl, hcall, rfl⟩ | hle
  · refine ⟨hagrees, fun timerNumber => ?_, fun x hx => by cases hx⟩
    have hone := h.pending timerNumber
    rw [System.scheduled_setHandlerLocked]
    split
    · rename_i hid
      subst hid
      rw [h.called alarm hcall]
    · exact hone
  · refine ⟨hagrees, fun timerNumber => (hle timerNumber).trans (h.pending timerNumber), ?_⟩
    -- a start that waits for `mutex_` was one of an idle timer, and nothing else inserts meanwhile
    intro alarm halarm
    have hzero : s.scheduled alarm.id = 0 := by
      refine hcase.called h.called ?_ alarm halarm
      rintro timerNumber triggerTime isSystemUid clock entry x rfl hentry hset
      obtain ⟨hid, _⟩ := setHandler_eq_some hset
      rw [hid, h.agrees.keys timerNumber entry hentry]
      exact hok
    exact Nat.le_zero.mp (hzero ▸ hle alarm.id)

/-- **One schedule per timer.** In runs that start no timer which still has a pending alarm, at most
    one alarm carries any id.  In every run, the insertion of a start adds one alarm to its timer,
    whatever the timer has already, and no other step adds one to any timer. -/
theorem one_schedule :
    (∀ s, Reachable StartsIdle s → ∀ timerNumber, s.scheduled timerNumber ≤ 1) ∧
    ∀ (s s' : System) (a : Action), s.step a = some s' →
      (∃ alarm, a = .setHandlerLocked ∧ s.entryCall = some (.setHandlerLocked alarm) ∧
        ∀ timerNumber, s'.scheduled timerNumber
          = s.scheduled timerNumber + if alarm.id = timerNumber then 1 else 0) ∨
      ∀ timerNumber, s'.scheduled timerNumber ≤ s.scheduled timerNumber := by
  constructor
  · intro s h
    refine (@Reachable.invariant StartsIdle System.OneSchedule s h (fun bootTime _ => ?_)
      fun _ _ _ ht hok hcase => ht.step hok hcase).pending
    exact ⟨System.Agrees.init bootTime, fun _ => Nat.zero_le 1, fun _ hcall => by cases hcall⟩
  · intro s s' a hstep
    rcases (System.stepCase hstep).scheduled with ⟨alarm, ha, hcall, rfl⟩ | hle
    · exact .inl ⟨alarm, ha, hcall, s.scheduled_setHandlerLocked alarm⟩
    · exact .inr hle

/-- A timer that is stopped before it is started again has one alarm. -/
theorem one_schedule_restarted :
    ∃ s : System, (pending s.schedule.alarmBatches).map TimerInfo.whenElapsed = [200000000000] ∧
      s.scheduled 1 ≤ 1 := by
  obtain ⟨s, hs, hcheck⟩ := @exists_reachable StartsIdle
    (fun s a =>
      match a with
      | .startTimer timerNumber _ _ _ => s.scheduled timerNumber = 0
      | _ => true)
    (fun t a hcheck => by
      cases a with
      | startTimer timerNumber =>
        rw [decide_eq_true_eq] at hcheck
        exact hcheck
      | _ => trivial)
    1000000000 (by decide)
    (.createTimer [1] 3 0 0 0 (some 0) 0 ::
      startTimerCall 1 100000 (fun _ => true) ⟨1000000000, 0⟩ ++
      stopTimerCall 1 ⟨1000000000, 0⟩ ++
      startTimerCall 1 200000 (fun _ => true) ⟨1000000000, 0⟩)
    (fun s => (pending s.schedule.alarmBatches).map TimerInfo.whenElapsed = [200000000000])
    (by decide +kernel)
  exact ⟨s, by simpa using hcheck, one_schedule.1 s hs 1⟩

/-- A timer that is started again while its alarm is pending has two. -/
theorem two_schedules :
    ¬ ∀ s : System, Reachable Always s → ∀ timerNumber, s.scheduled timerNumber ≤ 1 := by
  intro hclaim
  obtain ⟨s, hs, hcheck⟩ := exists_reached
    (.createTimer [1] 3 0 0 0 (some 0) 0 ::
      startTimerCall 1 100000 (fun _ => true) ⟨1000000000, 0⟩ ++
      startTimerCall 1 200000 (fun _ => true) ⟨1000000000, 0⟩)
    (fun s => s.scheduled 1 = 2) (by decide +kernel)
  have hone := hclaim s hs 1
  rw [decide_eq_true_eq] at hcheck
  omega

end TimeService
