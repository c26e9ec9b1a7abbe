import TimeService.Timer.Manager

namespace TimeService

open Transition

/-!
# The order of the batches

The trigger loop, the binary search of `AddBatchLocked` and the choice of the next kernel alarm
all take `alarmBatches_` to be sorted by start.  Insertions, passes and rebatches keep it sorted.
A removal may move the start of a batch back, and `RemoveLocked` rebatches only when the last batch
of the list had an alarm of the id: every round of its loop overwrites `didRemove`.

* `removeBatches_sorted_iff`: when a removal alone keeps the order;
* `batches_sorted`: in runs whose removals rebatch or keep the order, the batches are sorted;
* `order_lost`: a removal that does neither.
-/

/-- Without the alarms of `timerNumber` the batches are still in order: no alarm left in one is
    later than all alarms left in a batch after it. -/
def InOrderWithout (timerNumber : ℕ) (bs : List Batch) : Prop :=
  bs.Pairwise fun b c => ∀ x ∈ b.alarms, x.id ≠ timerNumber →
    (∃ y ∈ c.alarms, y.id ≠ timerNumber) →
      ∃ y ∈ c.alarms, y.id ≠ timerNumber ∧ x.whenElapsed ≤ y.whenElapsed

/-- A step that removes finds an alarm of the id in the last batch, or leaves the batches in
    order. -/
def RemovesInOrder (s : System) : Action → Prop
  | .removeHandler _ => ∀ timerNumber uid needDestroy,
      s.entryCall = some (.removeHandler timerNumber uid needDestroy) →
      LastHolds timerNumber s.schedule.alarmBatches ∨
        InOrderWithout timerNumber s.schedule.alarmBatches
  | _ => True

/-- A check for computed runs: a step that removes finds an alarm of the id in the last batch. -/
def removesLast (s : System) (a : Action) : Bool :=
  match a, s.entryCall with
  | .removeHandler _, some (.removeHandler timerNumber _ _) =>
    s.schedule.alarmBatches.getLast?.any fun b => b.alarms.any fun a => a.id = timerNumber
  | _, _ => true

theorem lastHolds_of_removesLast {s : System} {clocks : ℕ → Clock}
    (hcheck : removesLast s (.removeHandler clocks) = true) {timerNumber : ℕ} {uid : ℤ}
    {needDestroy : Bool}
    (hcall : s.entryCall = some (.removeHandler timerNumber uid needDestroy)) :
    LastHolds timerNumber s.schedule.alarmBatches := by
  unfold removesLast at hcheck
  simp only [hcall, Option.any_eq_true, List.any_eq_true, decide_eq_true_eq] at hcheck
  obtain ⟨b, hb, x, hx, hid⟩ := hcheck
  exact ⟨b, hb, x, hx, hid⟩

/-! ### Removal -/

/-- The alarms a removal leaves in a batch. -/
theorem mem_remove_alarms {b : Batch} {timerNumber : ℕ} {x : TimerInfo} :
    x ∈ (b.remove fun timer => timer.id = timerNumber).1.alarms ↔
      x ∈ b.alarms ∧ x.id ≠ timerNumber := by
  rw [Batch.remove_alarms, List.mem_filter]
  simp

/-- Two batches are in order after a removal exactly when what is left of the first is not later
    than all that is left of the second. -/
theorem remove_start_le_iff {b c : Batch} (hb : b.WF) (hc : c.WF) (timerNumber : ℕ) :
    ((b.remove fun timer => timer.id = timerNumber).1.alarms ≠ [] →
      (c.remove fun timer => timer.id = timerNumber).1.alarms ≠ [] →
      (b.remove fun timer => timer.id = timerNumber).1.start
        ≤ (c.remove fun timer => timer.id = timerNumber).1.start) ↔
      ∀ x ∈ b.alarms, x.id ≠ timerNumber → (∃ y ∈ c.alarms, y.id ≠ timerNumber) →
        ∃ y ∈ c.alarms, y.id ≠ timerNumber ∧ x.whenElapsed ≤ y.whenElapsed := by
  constructor
  · rintro hle x hx hid ⟨y, hy, hyid⟩
    have hx' := mem_remove_alarms.mpr ⟨hx, hid⟩
    have hy' := mem_remove_alarms.mpr ⟨hy, hyid⟩
    have hrb := Batch.remove_wf hb _ (List.ne_nil_of_mem hx')
    have hrc := Batch.remove_wf hc _ (List.ne_nil_of_mem hy')
    obtain ⟨z, hz, hstart⟩ := hrc.exists_start
    obtain ⟨hzc, hzid⟩ := mem_remove_alarms.mp hz
    refine ⟨z, hzc, hzid, ?_⟩
    have := hle (List.ne_nil_of_mem hx') (List.ne_nil_of_mem hy')
    have := hrb.whenElapsed_le_start hx'
    omega
  · -- compare the latest alarms that are left, which are the starts
    intro horder hrb hrc
    obtain ⟨x, hx, hstart⟩ := (Batch.remove_wf hb _ hrb).exists_start
    obtain ⟨hxb, hxid⟩ := mem_remove_alarms.mp hx
    obtain ⟨z, hz⟩ := List.exists_mem_of_ne_nil _ hrc
    obtain ⟨y, hy, hyid, hle⟩ := horder x hxb hxid ⟨z, mem_remove_alarms.mp hz⟩
    have := (Batch.remove_wf hc _ hrc).whenElapsed_le_start (mem_remove_alarms.mpr ⟨hy, hyid⟩)
    omega

/-- **Order after a removal.** What the loop of `RemoveLocked` leaves is sorted exactly when the
    batches are in order without the alarms of its id. -/
theorem removeBatches_sorted_iff {timerNumber : ℕ} {bs : List Batch} {didRemove : Bool}
    (hwf : ∀ b ∈ bs, b.WF) :
    SortedByStart (removeBatches timerNumber bs didRemove).1 ↔ InOrderWithout timerNumber bs := by
  rw [removeBatches_fst, SortedByStart, List.pairwise_filter, List.pairwise_map, InOrderWithout]
  refine List.Pairwise.iff_of_mem fun hb hc => ?_
  rw [← remove_start_le_iff (hwf _ hb) (hwf _ hc) timerNumber]
  simp

/-- A rebatch leaves the batches sorted, whatever they were. -/
theorem Schedule.reBatchAllTimersLocked_sorted (s : Schedule) (nowElapsed : ℤ)
    (clocks : ℕ → Clock) :
    SortedByStart (s.reBatchAllTimersLocked nowElapsed clocks).alarmBatches :=
  @Schedule.reBatchAllTimersLocked_invariant (fun bs _ => SortedByStart bs) nowElapsed clocks s
    List.Pairwise.nil fun _ _ a _ hbs => insertAndBatch_sorted hbs a

/-- A removal ends in order exactly when it rebatches or is in order without the rebatch. -/
theorem Schedule.removeLocked_sorted_iff {s : Schedule} (hwf : ∀ b ∈ s.alarmBatches, b.WF)
    (timerNumber : ℕ) (nowElapsed : ℤ) (clocks : ℕ → Clock) :
    SortedByStart (s.removeLocked timerNumber nowElapsed clocks).alarmBatches ↔
      LastHolds timerNumber s.alarmBatches ∨ InOrderWithout timerNumber s.alarmBatches := by
  rw [lastHolds_iff]
  rcases s.removeLocked_cases timerNumber nowElapsed clocks with ⟨hdid, heq⟩ | ⟨hdid, heq⟩
  · rw [heq, hdid]
    exact iff_of_true (Schedule.reBatchAllTimersLocked_sorted _ _ _) (.inl rfl)
  · rw [heq, hdid, removeBatches_sorted_iff hwf]
    simp

/-! ### Runs -/

theorem StepCase.sorted {s s' : System} {a : Action} (h : StepCase s a s')
    (hwf : ∀ b ∈ s.schedule.alarmBatches, b.WF) (hsorted : SortedByStart s.schedule.alarmBatches)
    (hok : RemovesInOrder s a) : SortedByStart s'.schedule.alarmBatches := by
  refine @StepCase.batches (fun bs _ => SortedByStart bs) (fun _ => True) s s' a h hsorted
    (fun _ _ _ => List.Pairwise.nil) (fun _ _ => trivial) (fun _ _ _ => trivial)
    (fun _ _ _ _ _ => trivial) (fun bs _ alarm _ hbs => insertAndBatch_sorted hbs alarm)
    (fun _ _ _ hbs => (List.pairwise_cons.mp hbs).2) ?_
  -- the one step that neither inserts nor pops is a removal without a rebatch
  rintro timerNumber uid needDestroy clocks rfl hcall hdid
  rw [removeBatches_sorted_iff hwf]
  rcases hok timerNumber uid needDestroy hcall with hlast | horder
  · rw [lastHolds_iff, hdid] at hlast
    cases hlast
  · exact horder

/-- **Order of the batches.** In runs whose removals find an alarm of their id in the last batch or
    leave the batches in order, the batches are sorted by start in every state reached; and the
    next removal keeps them sorted exactly when it meets that condition. -/
theorem batches_sorted {s : System} (h : Reachable RemovesInOrder s) :
    SortedByStart s.schedule.alarmBatches ∧
      ∀ timerNumber uid needDestroy clocks,
        s.entryCall = some (.removeHandler timerNumber uid needDestroy) →
        (SortedByStart (s.removeHandler timerNumber uid needDestroy clocks).schedule.alarmBatches ↔
          RemovesInOrder s (.removeHandler clocks)) := by
  constructor
  · refine (@Reachable.invariant RemovesInOrder (fun t => (∀ b ∈ t.schedule.alarmBatches, b.WF) ∧
      SortedByStart t.schedule.alarmBatches) s h ?_ ?_).2
    · exact fun _ _ => ⟨fun _ hb => (List.not_mem_nil hb).elim, List.Pairwise.nil⟩
    · rintro t a t' ⟨hwf, hsorted⟩ hok hcase
      exact ⟨hcase.batches_wf hwf, hcase.sorted hwf hsorted hok⟩
  · intro timerNumber uid needDestroy clocks hcall
    have hiff := Schedule.removeLocked_sorted_iff h.batches_wf timerNumber s.bootTime clocks
    refine hiff.trans ⟨fun hcond k kuid nd hk => ?_, fun hcond => ?_⟩
    · rw [hcall] at hk
      cases hk
      exact hcond
    · exact hcond timerNumber uid needDestroy hcall

/-- A removal from the last of two batches. -/
theorem batches_sorted_removed :
    ∃ s : System, s.schedule.alarmBatches.map Batch.start = [100000000000, 200000000000] ∧
      SortedByStart s.schedule.alarmBatches := by
  obtain ⟨s, hs, hcheck⟩ := @exists_reachable RemovesInOrder removesLast
    (fun t a hcheck => by
      cases a with
      | removeHandler clocks =>
        intro timerNumber uid needDestroy hcall
        exact .inl (lastHolds_of_removesLast hcheck hcall)
      | _ => trivial)
    1000000000 (by decide)
    ([.createTimer [1] 3 0 0 0 (some 0) 0, .createTimer [2] 3 0 0 0 (some 0) 0,
        .createTimer [3] 3 0 0 0 (some 0) 0] ++
      startTimerCall 1 100000 (fun _ => true) ⟨1000000000, 0⟩ ++
      startTimerCall 2 200000 (fun _ => true) ⟨1000000000, 0⟩ ++
      startTimerCall 3 300000 (fun _ => true) ⟨1000000000, 0⟩ ++
      stopTimerCall 3 ⟨1000000000, 0⟩)
    (fun s => s.schedule.alarmBatches.map Batch.start = [100000000000, 200000000000])
    (by decide +kernel)
  rw [decide_eq_true_eq] at hcheck
  exact ⟨s, hcheck, (batches_sorted hs).1⟩

/-- Alarms for 100 s and 150 s share a batch behind a `STANDALONE` one for 120 s.  Stopping the
    second of them moves their batch back to 100 s, but the last batch of the list has no alarm
    of the id, so the list is left out of order. -/
theorem order_lost :
    ¬ ∀ s : System, Reachable Always s → SortedByStart s.schedule.alarmBatches := by
  intro hclaim
  obtain ⟨s, hs, hcheck⟩ := exists_reached
    ([.createTimer [1] 3 100000 0 0 (some 0) 0, .createTimer [2] 3 0 0 1 (some 0) 0,
        .createTimer [3] 3 100000 0 0 (some 0) 0, .createTimer [4] 3 0 0 0 (some 0) 0] ++
      startTimerCall 1 100000 (fun _ => true) ⟨1000000000, 0⟩ ++
      startTimerCall 2 120000 (fun _ => true) ⟨1000000000, 0⟩ ++
      startTimerCall 3 150000 (fun _ => true) ⟨1000000000, 0⟩ ++
      startTimerCall 4 1000000 (fun _ => true) ⟨1000000000, 0⟩ ++
      stopTimerCall 3 ⟨1000000000, 0⟩)
    (fun s => s.schedule.alarmBatches.map Batch.start
      = [120000000000, 100000000000, 1000000000000])
    (by decide +kernel)
  rw [decide_eq_true_eq] at hcheck
  have hsorted := List.pairwise_map.mpr (hclaim s hs)
  rw [hcheck] at hsorted
  have hle := (List.pairwise_cons.mp hsorted).1 100000000000 (by simp)
  omega

end TimeService
