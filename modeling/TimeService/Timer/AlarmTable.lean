import TimeService.Lib.AlarmTable
import TimeService.Timer.Firing
import Mathlib.Algebra.Order.Group.Multiset

namespace TimeService

open Transition AlarmTable

/-!
# The manager as a table of alarms

Without batches, kernel timers and mutexes the manager is a table of alarms: `System.table` forgets
how alarms are batched.  Every region of the source then is a step of the table, or a few of them,
so batching decides only which of the alarms that are due ring in a pass.

* `Schedule.triggerTimersLocked_quiet`: a pass rings alarms one at a time, each of them due;
* `reAddedAll_quiet`: a rebatch replaces the alarms one at a time;
* `manager_refines_table`: every run of the manager is a run of the table, in which only the
  insertion of a `StartTimer` sets an alarm.
-/

/-- The alarms of the manager: an alarm that repeats leaves its next one behind when it rings, and
    re-adding replaces an alarm by what the clocks make of it, or drops it. -/
def alarmRules : Rules TimerInfo ℕ ℤ where
  key := TimerInfo.id
  due := TimerInfo.whenElapsed
  ringing := TimerInfo.triggered
  again nowElapsed a := if a.repeatInterval > 0 then {a.next nowElapsed} else 0
  Becomes nowElapsed a new := ∃ clock, new = ((a.reAdded nowElapsed clock).toList : Multiset _)

/-- The table of alarms behind a state of the manager. -/
def System.table (s : System) : Table TimerInfo ℤ where
  now := s.bootTime
  alarms := pending s.schedule.alarmBatches
  rung := s.triggered
  cancelled := s.removed

/-- A quiet run of the table of alarms. -/
abbrev QuietRun : Table TimerInfo ℤ → Table TimerInfo ℤ → Prop :=
  Relation.ReflTransGen (Quiet alarmRules)

/-! ### Passes -/

/-- An alarm of a popped batch rings. -/
theorem quiet_triggerAlarm {now nowElapsed : ℤ} (hnow : nowElapsed ≤ now) (p : TriggerPass)
    {a : TimerInfo} (hdue : a.whenElapsed ≤ nowElapsed) (as : List TimerInfo)
    (rung cancelled : Multiset TimerInfo) :
    Quiet alarmRules
      ⟨now, (a :: as ++ pending p.schedule.alarmBatches : List TimerInfo),
        rung + (p.triggerList : Multiset TimerInfo), cancelled⟩
      ⟨now, (as ++ pending (triggerAlarm nowElapsed p a).schedule.alarmBatches : List TimerInfo),
        rung + ((triggerAlarm nowElapsed p a).triggerList : Multiset TimerInfo), cancelled⟩ := by
  -- what the alarm leaves behind is inserted into the batches that are left
  have halarms : ((as ++ pending (triggerAlarm nowElapsed p a).schedule.alarmBatches :
        List TimerInfo) : Multiset TimerInfo)
      = alarmRules.again nowElapsed a
        + ((as ++ pending p.schedule.alarmBatches : List TimerInfo) : Multiset TimerInfo) := by
    rw [triggerAlarm_alarmBatches]
    show _ = (if a.repeatInterval > 0 then {a.next nowElapsed} else 0) + _
    split
    · rw [Multiset.singleton_add, Multiset.cons_coe, Multiset.coe_eq_coe]
      have hinsert := insertAndBatch_pending p.schedule.alarmBatches (a.next nowElapsed)
      exact (hinsert.append_left as).trans List.perm_middle
    · rw [zero_add]
  have hrung : rung + ((triggerAlarm nowElapsed p a).triggerList : Multiset TimerInfo)
      = alarmRules.ringing nowElapsed a ::ₘ (rung + (p.triggerList : Multiset TimerInfo)) := by
    show rung + ((p.triggerList ++ [a.triggered nowElapsed] : List TimerInfo) : Multiset TimerInfo)
      = a.triggered nowElapsed ::ₘ (rung + (p.triggerList : Multiset TimerInfo))
    rw [← Multiset.coe_add, Multiset.coe_singleton, ← add_assoc, add_comm,
      Multiset.singleton_add]
  rw [halarms, hrung, List.cons_append, ← Multiset.cons_coe]
  exact @Quiet.ring _ _ _ _ _ alarmRules now nowElapsed _ _ _ a hdue hnow

/-- **A pass rings alarms one at a time**, each of them due at the time of the pass. -/
theorem Schedule.triggerTimersLocked_quiet {s : Schedule} (hwf : ∀ b ∈ s.alarmBatches, b.WF)
    {now nowElapsed : ℤ} (hnow : nowElapsed ≤ now) (rung cancelled : Multiset TimerInfo) :
    QuietRun ⟨now, (pending s.alarmBatches : Multiset TimerInfo), rung, cancelled⟩
      ⟨now, pending (s.triggerTimersLocked nowElapsed).schedule.alarmBatches,
        rung + ((s.triggerTimersLocked nowElapsed).triggerList : Multiset TimerInfo),
        cancelled⟩ := by
  -- the alarms of the popped batch that are still to come are set, and due
  let Inv : TriggerPass → List TimerInfo → Prop := fun p as =>
    (∀ b ∈ p.schedule.alarmBatches, b.WF) ∧ (∀ a ∈ as, a.whenElapsed ≤ nowElapsed) ∧
      QuietRun ⟨now, (pending s.alarmBatches : Multiset TimerInfo), rung, cancelled⟩
        ⟨now, (as ++ pending p.schedule.alarmBatches : List TimerInfo),
          rung + (p.triggerList : Multiset TimerInfo), cancelled⟩
  have hinit : Inv ⟨s, [], false⟩ [] := by
    refine ⟨hwf, by simp, ?_⟩
    rw [Multiset.coe_nil, add_zero]
    exact Relation.ReflTransGen.refl
  refine (@triggerLoop_rule Inv nowElapsed ?_ ?_ (triggerFuel s.alarmBatches) _ hinit).2.2
  · rintro p batch rest ⟨hpwf, _, hrun⟩ hbs hdue
    rw [hbs] at hpwf hrun
    refine ⟨fun b hb => hpwf b (List.mem_cons_of_mem _ hb), fun a ha => ?_, hrun⟩
    exact ((hpwf batch (by simp)).whenElapsed_le_start ha).trans hdue
  · rintro p a as ⟨hpwf, has, hrun⟩
    refine ⟨?_, fun x hx => has x (List.mem_cons_of_mem _ hx),
      hrun.tail (quiet_triggerAlarm hnow p (has a (by simp)) as rung cancelled)⟩
    rw [triggerAlarm_alarmBatches]
    split
    · exact insertAndBatch_wf hpwf _
    · exact hpwf

/-! ### Rebatches -/

/-- **A rebatch replaces alarms one at a time.** -/
theorem reAddedAll_quiet (now : ℤ) (clocks : ℕ → Clock) (timers : List TimerInfo)
    (rest rung cancelled : Multiset TimerInfo) :
    QuietRun ⟨now, (timers : Multiset TimerInfo) + rest, rung, cancelled⟩
      ⟨now, (reAddedAll now clocks timers : Multiset TimerInfo) + rest, rung, cancelled⟩ := by
  induction timers generalizing clocks rest with
  | nil => exact Relation.ReflTransGen.refl
  | cons timer timers ih =>
    let new : Multiset TimerInfo := (timer.reAdded now (clocks 0)).toList
    have hfirst : Quiet alarmRules
        ⟨now, timer ::ₘ ((timers : Multiset TimerInfo) + rest), rung, cancelled⟩
        ⟨now, new + ((timers : Multiset TimerInfo) + rest), rung, cancelled⟩ :=
      .become ⟨clocks 0, rfl⟩
    -- the replaced alarm counts with the rest from here on
    have hrest := ih (fun i => clocks (i + 1)) (new + rest)
    rw [← Multiset.cons_coe, Multiset.cons_add]
    refine (Relation.ReflTransGen.single hfirst).trans ?_
    rw [reAddedAll, ← Multiset.coe_add, add_left_comm]
    have hsame : new + ((reAddedAll now (fun i => clocks (i + 1)) timers : Multiset TimerInfo)
        + rest)
        = (reAddedAll now (fun i => clocks (i + 1)) timers : Multiset TimerInfo) + (new + rest) :=
      add_left_comm _ _ _
    rw [add_assoc, hsame]
    exact hrest

theorem Schedule.reBatchAllTimersLocked_quiet (s : Schedule) (now : ℤ) (clocks : ℕ → Clock)
    (rung cancelled : Multiset TimerInfo) :
    QuietRun ⟨now, (pending s.alarmBatches : Multiset TimerInfo), rung, cancelled⟩
      ⟨now, pending (s.reBatchAllTimersLocked now clocks).alarmBatches, rung, cancelled⟩ := by
  have hrun := reAddedAll_quiet now clocks (pending s.alarmBatches) 0 rung cancelled
  rw [add_zero, add_zero] at hrun
  rwa [Multiset.coe_eq_coe.mpr (s.reBatchAllTimersLocked_pending now clocks)]

/-- A stop cancels the alarms of its id and may replace the others. -/
theorem System.removeHandler_quiet (s : System) (timerNumber : ℕ) (uid : ℤ) (needDestroy : Bool)
    (clocks : ℕ → Clock) :
    QuietRun s.table (s.removeHandler timerNumber uid needDestroy clocks).table := by
  let kept := pending (removeBatches timerNumber s.schedule.alarmBatches false).1
  let gone := (pending s.schedule.alarmBatches).filter fun a => a.id = timerNumber
  have hkept : (kept : Multiset TimerInfo)
      = (pending s.schedule.alarmBatches : Multiset TimerInfo).filter fun a =>
          ¬ a.id = timerNumber := by
    show ((pending _ : List TimerInfo) : Multiset TimerInfo) = _
    rw [removeBatches_pending, Multiset.filter_coe]
  have hcancel : Quiet alarmRules s.table
      ⟨s.bootTime, (kept : Multiset TimerInfo), s.triggered,
        (s.removed : Multiset TimerInfo) + (gone : Multiset TimerInfo)⟩ := by
    rw [hkept, ← Multiset.filter_coe]
    exact .cancel timerNumber
  refine (Relation.ReflTransGen.single hcancel).trans ?_
  rw [Multiset.coe_add]
  show QuietRun _ ⟨s.bootTime,
    pending (s.schedule.removeLocked timerNumber s.bootTime clocks).alarmBatches, s.triggered, _⟩
  rcases s.schedule.removeLocked_cases timerNumber s.bootTime clocks with ⟨_, heq⟩ | ⟨_, heq⟩
  · rw [heq]
    exact Schedule.reBatchAllTimersLocked_quiet
      { s.schedule with
        alarmBatches := (removeBatches timerNumber s.schedule.alarmBatches false).1 }
      s.bootTime clocks s.triggered (s.removed ++ gone : List TimerInfo)
  · rw [heq]
    exact Relation.ReflTransGen.refl

/-! ### Runs -/

/-- An insertion sets its alarm. -/
theorem System.setHandlerLocked_table (s : System) (alarm : TimerInfo) :
    (s.setHandlerLocked alarm).table = s.table.set alarm := by
  have hperm := insertAndBatch_pending s.schedule.alarmBatches alarm
  rw [← Schedule.setHandlerLocked_alarmBatches s.schedule alarm false] at hperm
  show Table.mk s.bootTime _ _ _ = Table.mk s.bootTime
    (alarm ::ₘ (TimeService.pending s.schedule.alarmBatches : Multiset TimerInfo)) _ _
  rw [Multiset.cons_coe, ← Multiset.coe_eq_coe.mpr hperm]
  rfl

/-- **The table behind a step.** The insertion of a `StartTimer` sets its alarm; every other step of
    the manager is a quiet run of the table. -/
theorem StepCase.table {s s' : System} {a : Action} (h : StepCase s a s') (hp : s.Punctual) :
    (∃ alarm, a = .setHandlerLocked ∧ s.entryCall = some (.setHandlerLocked alarm) ∧
      s'.table = s.table.set alarm) ∨ QuietRun s.table s'.table := by
  cases h with
  | insert alarm hcall => exact .inl ⟨alarm, rfl, hcall, s.setHandlerLocked_table alarm⟩
  | remove timerNumber uid needDestroy clocks =>
    exact .inr (s.removeHandler_quiet timerNumber uid needDestroy clocks)
  | rebatch result nowRtc nowElapsed clocks =>
    exact .inr (s.schedule.reBatchAllTimersLocked_quiet s.bootTime clocks _ _)
  | trigger result nowElapsed triggerList hlooper hlist =>
    right
    have hpast : nowElapsed ≤ s.bootTime := by
      have hpast := hp.looper
      rwa [hlooper] at hpast
    have hrun := Schedule.triggerTimersLocked_quiet hp.wf hpast (s.triggered : Multiset TimerInfo)
      (s.removed : Multiset TimerInfo)
    -- sorting the trigger list does not change what has rung
    rw [← Multiset.coe_eq_coe.mpr hlist.1, Multiset.coe_add] at hrun
    exact hrun
  | advance bootTime hle => exact .inr (Relation.ReflTransGen.single (.wait hle))
  | _ => exact .inr Relation.ReflTransGen.refl

/-- **The manager is a table of alarms.** A new manager has an empty table.  From every reachable
    state the insertion of a `StartTimer` sets its alarm and every other step of the manager, in
    any interleaving, is a quiet run of the table, in which each alarm rings on its own and not
    before it is due; so every run of the manager is a run of the table. -/
theorem manager_refines_table {s : System} (h : Reachable Always s) :
    (∀ bootTime, (System.init bootTime).table = ⟨bootTime, 0, 0, 0⟩) ∧
    (∀ a s', s.step a = some s' →
      (∃ alarm, a = .setHandlerLocked ∧ s.entryCall = some (.setHandlerLocked alarm) ∧
        s'.table = s.table.set alarm) ∨ QuietRun s.table s'.table) ∧
    ∀ s', Reaches System.step Always s s' →
      Relation.ReflTransGen (AlarmTable.Step alarmRules) s.table s'.table := by
  refine ⟨fun _ => rfl, fun a s' hstep => (System.stepCase hstep).table h.punctual,
    fun s' hrun => ?_⟩
  induction hrun with
  | refl => exact Relation.ReflTransGen.refl
  | tail hfirst hlast ih =>
    obtain ⟨a, _, hstep⟩ := hlast
    rcases (System.stepCase hstep).table (h.reaches hfirst).punctual with
      ⟨alarm, _, _, heq⟩ | hquiet
    · rw [heq]
      exact ih.tail (.set _ alarm)
    · exact ih.trans (AlarmTable.Step.of_quiet hquiet)

/-- Two one-shot alarms that share a batch, and the pass that rings both. -/
def sharedPass : List Action :=
  let first := (TimerInfo.make 1 3 200000 200000000000 100000 300000000000 0 (some 0) 0 0).triggered
    250000000000
  let second := (TimerInfo.make 2 3 250000 250000000000 100000 350000000000 0 (some 0) 0
    0).triggered 250000000000
  [.createTimer [1] 3 100000 0 0 (some 0) 0, .createTimer [2] 3 100000 0 0 (some 0) 0] ++
    startTimerCall 1 200000 (fun _ => true) ⟨1000000000, 0⟩ ++
    startTimerCall 2 250000 (fun _ => true) ⟨1000000000, 0⟩ ++ [.advance 250000000000] ++
    expiryIteration nonWakeupFd ⟨250000000000, 0⟩ [first, second]

/-- Two alarms that share a batch ring in one pass, as two steps of the table. -/
theorem manager_refines_table_shared :
    ∃ s : System, s.triggered.map TimerInfo.id = [1, 2] ∧
      Relation.ReflTransGen (AlarmTable.Step alarmRules) ⟨1000000000, 0, 0, 0⟩ s.table := by
  obtain ⟨s, hrun, hcheck⟩ := @exists_reaches_of_runWhen System Action System.step Always
    (System.init 1000000000) (fun _ _ => true) (fun _ _ _ => trivial) sharedPass
    (fun s => s.triggered.map TimerInfo.id = [1, 2]) (by decide +kernel)
  rw [decide_eq_true_eq] at hcheck
  have hnew : Reachable Always (System.init 1000000000) := ⟨_, by decide, Reaches.refl⟩
  exact ⟨s, hcheck, (manager_refines_table hnew).2.2 s hrun⟩

end TimeService
