import TimeService.Timer.Order

namespace TimeService

open Transition

/-!
# The kernel alarm

The looper sleeps until a kernel timer expires, so one has to be armed for the first batch, and
the wakeup timer for the first batch that holds a wakeup alarm: `TimerHandler.ArmedFor`.
`RescheduleKernelTimerLocked` arms them from a sorted list, and every operation ends with it except
a removal that does not rebatch.  Such a removal is harmless as long as no batch starts earlier
after it: `KeepsLead`.

* `rescheduleHandler_armedFor`: what rescheduling arms;
* `kernel_armed`: in runs whose removals rebatch or leave nothing earlier, it is armed in time;
* `armed_late`: a removal that does neither.
-/

/-- The alarm is of a wakeup type. -/
def TimerInfo.OfWakeupType (a : TimerInfo) : Prop :=
  a.type = TimerType.rtcWakeup.value ∨ a.type = TimerType.elapsedRealtimeWakeup.value

/-- If there is a batch, a timer of the boot clock covers the start of every batch, and the wakeup
    timer covers that of every batch with an alarm of a wakeup type. -/
structure TimerHandler.ArmedFor (h : TimerHandler) (bs : List Batch) : Prop where
  first : bs ≠ [] → ∃ fd, (fd = wakeupFd ∨ fd = nonWakeupFd) ∧ ∀ b ∈ bs, (h.fds fd).Covers b.start
  wakeup : ∀ b ∈ bs, ∀ a ∈ b.alarms, a.OfWakeupType → (h.fds wakeupFd).Covers b.start

/-- The kernel is armed for the batches of the state. -/
def System.TimersArmed (s : System) : Prop := s.schedule.handler.ArmedFor s.schedule.alarmBatches

/-- While the looper waits the kernel is armed.  In an iteration it has read an expiry and is on its
    way to reschedule, so an expiry counts as consumed when the iteration is complete. -/
def System.KernelArmed (s : System) : Prop := s.looper = .waiting → s.TimersArmed

/-- What is left without the alarms of `timerNumber` does not start earlier: a batch that keeps an
    alarm with `P` keeps one no earlier than the start of some batch with an alarm with `P`. -/
def StartsNoEarlier (P : TimerInfo → Prop) (timerNumber : ℕ) (bs : List Batch) : Prop :=
  ∀ b ∈ bs, (∃ x ∈ b.alarms, x.id ≠ timerNumber ∧ P x) →
    ∃ y ∈ b.alarms, y.id ≠ timerNumber ∧
      ∃ c ∈ bs, (∃ a ∈ c.alarms, P a) ∧ c.start ≤ y.whenElapsed

/-- Without the alarms of `timerNumber` the batches are in order, none of them starts before the
    earliest one did, and none with an alarm of a wakeup type before the earliest such one did. -/
structure LeadsWithout (timerNumber : ℕ) (bs : List Batch) : Prop where
  inOrder : InOrderWithout timerNumber bs
  first : StartsNoEarlier (fun _ => True) timerNumber bs
  wakeup : StartsNoEarlier TimerInfo.OfWakeupType timerNumber bs

/-- A step that removes finds an alarm of the id in the last batch, or leaves no batch that the
    kernel timers armed before are too late for. -/
def KeepsLead (s : System) : Action → Prop
  | .removeHandler _ => ∀ timerNumber uid needDestroy,
      s.entryCall = some (.removeHandler timerNumber uid needDestroy) →
      LastHolds timerNumber s.schedule.alarmBatches ∨
        LeadsWithout timerNumber s.schedule.alarmBatches
  | _ => True

/-- A batch with an alarm of a wakeup type has wakeups. -/
theorem Batch.hasWakeups_of_type {b : Batch} {a : TimerInfo} (ha : a ∈ b.alarms)
    (htype : a.OfWakeupType) : b.hasWakeups = true := by
  unfold Batch.hasWakeups
  rw [List.any_eq_true]
  refine ⟨a, ha, ?_⟩
  rcases htype with htype | htype <;> rw [htype] <;> decide

/-! ### Rescheduling -/

theorem setLocked_wakeup_fds (h : TimerHandler) {when : ℤ} (hpos : 0 < when)
    (i : Fin (alarmTypeCount + 1)) :
    (setLocked h .elapsedRealtimeWakeup when).fds i
      = if i = wakeupFd then .armed when else h.fds i :=
  TimerHandler.set_fds h (by decide) hpos i

theorem setLocked_nonWakeup_fds (h : TimerHandler) {when : ℤ} (hpos : 0 < when)
    (i : Fin (alarmTypeCount + 1)) :
    (setLocked h .elapsedRealtime when).fds i
      = if i = nonWakeupFd then .armed when else h.fds i :=
  TimerHandler.set_fds h (by decide) hpos i

/-- On a sorted list the first batch with wakeups starts before all others with wakeups. -/
theorem findFirstWakeupBatchLocked_least {bs : List Batch} (hsorted : SortedByStart bs)
    {firstWakeup : Batch} (hfind : findFirstWakeupBatchLocked bs = some firstWakeup) :
    firstWakeup ∈ bs ∧ firstWakeup.hasWakeups = true ∧
      ∀ b ∈ bs, b.hasWakeups = true → firstWakeup.start ≤ b.start := by
  obtain ⟨hwakeups, before, after, rfl, hbefore⟩ := List.find?_eq_some_iff_append.mp hfind
  refine ⟨by simp, hwakeups, fun b hb hbw => ?_⟩
  rcases List.mem_append.mp hb with hb | hb
  · have hnone := hbefore b hb
    rw [hbw] at hnone
    cases hnone
  · rcases List.mem_cons.mp hb with rfl | hb
    · exact Int.le_refl _
    · exact (List.pairwise_cons.mp (List.pairwise_append.mp hsorted).2.1).1 b hb

/-- **What rescheduling arms.** From a sorted list of batches with positive starts the timers are
    armed for it, whatever they were. -/
theorem rescheduleHandler_armedFor {bs : List Batch} (hsorted : SortedByStart bs)
    (hpos : ∀ b ∈ bs, 0 < b.start) (h : TimerHandler) : (rescheduleHandler bs h).ArmedFor bs := by
  cases bs with
  | nil => exact ⟨fun hne => absurd rfl hne, fun _ hb => by cases hb⟩
  | cons firstBatch rest =>
    have hfirst : ∀ b ∈ firstBatch :: rest, firstBatch.start ≤ b.start := by
      intro b hb
      rcases List.mem_cons.mp hb with rfl | hb
      · exact Int.le_refl _
      · exact (List.pairwise_cons.mp hsorted).1 b hb
    unfold rescheduleHandler
    simp only
    by_cases hw : firstBatch.hasWakeups = true
    · -- the first batch is the first with wakeups: the wakeup timer covers everything
      have hfind : findFirstWakeupBatchLocked (firstBatch :: rest) = some firstBatch := by
        rw [findFirstWakeupBatchLocked, List.find?_cons_of_pos hw]
      have hcovers : ∀ b ∈ firstBatch :: rest, ((setLocked h .elapsedRealtimeWakeup
          firstBatch.start).fds wakeupFd).Covers b.start := by
        intro b hb
        rw [setLocked_wakeup_fds h (hpos firstBatch (by simp)), if_pos rfl]
        exact hfirst b hb
      rw [hfind, if_pos hw]
      exact ⟨fun _ => ⟨wakeupFd, .inl rfl, hcovers⟩, fun b hb _ _ _ => hcovers b hb⟩
    · -- the other timer covers the start of the list, the wakeup timer its first wakeup batch
      rw [if_neg hw]
      have hne : wakeupFd ≠ nonWakeupFd := by decide
      refine ⟨fun _ => ⟨nonWakeupFd, .inr rfl, fun b hb => ?_⟩, fun b hb a ha htype => ?_⟩
      · rw [setLocked_nonWakeup_fds _ (hpos firstBatch (by simp)), if_pos rfl]
        exact hfirst b hb
      · have hbw := Batch.hasWakeups_of_type ha htype
        rw [setLocked_nonWakeup_fds _ (hpos firstBatch (by simp)), if_neg hne]
        cases hfind : findFirstWakeupBatchLocked (firstBatch :: rest) with
        | none => exact absurd hbw (List.find?_eq_none.mp hfind b hb)
        | some firstWakeup =>
          obtain ⟨hmem, _, hleast⟩ := findFirstWakeupBatchLocked_least hsorted hfind
          simp only
          rw [setLocked_wakeup_fds h (hpos firstWakeup hmem), if_pos rfl]
          exact hleast b hb hbw

/-! ### Removal without a rebatch -/

/-- What a removal leaves of a batch with an alarm with `P` starts no earlier than some batch with
    an alarm with `P` did. -/
theorem StartsNoEarlier.remove {P : TimerInfo → Prop} {timerNumber : ℕ} {bs : List Batch}
    (h : StartsNoEarlier P timerNumber bs) (hwf : ∀ b ∈ bs, b.WF) {c : Batch}
    (hc : c ∈ (removeBatches timerNumber bs false).1) (hP : ∃ x ∈ c.alarms, P x) :
    ∃ b ∈ bs, (∃ a ∈ b.alarms, P a) ∧ b.start ≤ c.start := by
  obtain ⟨x, hx, hPx⟩ := hP
  rw [removeBatches_fst] at hc
  obtain ⟨b, hb, rfl⟩ := List.mem_map.mp (List.mem_filter.mp hc).1
  have hrem := Batch.remove_wf (hwf b hb) _ (List.ne_nil_of_mem hx)
  obtain ⟨hxb, hxid⟩ := mem_remove_alarms.mp hx
  obtain ⟨y, hy, hyid, lead, hlead, hPlead, hle⟩ := h b hb ⟨x, hxb, hxid, hPx⟩
  have := hrem.whenElapsed_le_start (mem_remove_alarms.mpr ⟨hy, hyid⟩)
  exact ⟨lead, hlead, hPlead, by omega⟩

/-- **Removal without a rebatch.** Timers armed for the batches are armed for what it leaves, if
    that does not start earlier. -/
theorem TimerHandler.ArmedFor.remove {h : TimerHandler} {timerNumber : ℕ} {bs : List Batch}
    (harmed : h.ArmedFor bs) (hwf : ∀ b ∈ bs, b.WF) (hleads : LeadsWithout timerNumber bs) :
    h.ArmedFor (removeBatches timerNumber bs false).1 := by
  have hnonempty : ∀ c ∈ (removeBatches timerNumber bs false).1, ∃ x ∈ c.alarms, True :=
    fun c hc => (List.exists_mem_of_ne_nil _ (removeBatches_wf hwf c hc).nonempty).imp
      fun x hx => ⟨hx, trivial⟩
  constructor
  · intro hne
    obtain ⟨c, hc⟩ := List.exists_mem_of_ne_nil _ hne
    obtain ⟨b, hb, _⟩ := hleads.first.remove hwf hc (hnonempty c hc)
    obtain ⟨fd, hfd, hcovers⟩ := harmed.first (List.ne_nil_of_mem hb)
    refine ⟨fd, hfd, fun c hc => ?_⟩
    obtain ⟨b, hb, _, hle⟩ := hleads.first.remove hwf hc (hnonempty c hc)
    exact TimerFd.covers_mono (hcovers b hb) hle
  · intro c hc a ha htype
    obtain ⟨b, hb, ⟨x, hx, hxtype⟩, hle⟩ := hleads.wakeup.remove hwf hc ⟨a, ha, htype⟩
    exact TimerFd.covers_mono (harmed.wakeup b hb x hx hxtype) hle

/-- Boot time that advances leaves every timer that covers a start covering it. -/
theorem TimerHandler.ArmedFor.expire {h : TimerHandler} {bs : List Batch} (harmed : h.ArmedFor bs)
    (bootTime : ℤ) : (h.expire bootTime).ArmedFor bs := by
  constructor
  · intro hne
    obtain ⟨fd, hfd, hcovers⟩ := harmed.first hne
    exact ⟨fd, hfd, fun b hb => TimerHandler.covers_expire (hcovers b hb)⟩
  · intro b hb a ha htype
    exact TimerHandler.covers_expire (harmed.wakeup b hb a ha htype)

/-! ### Runs -/

/-- The boot time the looper has read is positive. -/
def LooperState.Positive : LooperState → Prop
  | .waiting => True
  | .woken _ _ nowElapsed => 0 < nowElapsed
  | .checked _ nowElapsed => 0 < nowElapsed
  | .delivering _ => True

/-- The invariant of the runs: the batches are sorted and start after the boot of the clock, and the
    kernel is armed for them. -/
structure System.Armed (s : System) : Prop where
  wf : ∀ b ∈ s.schedule.alarmBatches, b.WF
  sorted : SortedByStart s.schedule.alarmBatches
  positive : ∀ b ∈ s.schedule.alarmBatches, 0 < b.start
  bootTime : 0 < s.bootTime
  looper : s.looper.Positive
  called : ∀ alarm, s.entryCall = some (.setHandlerLocked alarm) → 0 < alarm.whenElapsed
  armed : s.KernelArmed

/-- Insertions of positive alarms keep the starts positive. -/
theorem insertAndBatch_positive {bs : List Batch} (h : ∀ b ∈ bs, 0 < b.start) {alarm : TimerInfo}
    (hpos : 0 < alarm.whenElapsed) : ∀ b ∈ insertAndBatch bs alarm, 0 < b.start :=
  insertAndBatch_forall h hpos fun b _ hb => by
    rw [Batch.add_start]
    exact lt_max_of_lt_left hb

/-- After a rebatch the starts are not in the past. -/
theorem Schedule.reBatchAllTimersLocked_positive (s : Schedule) {nowElapsed : ℤ}
    (hnow : 0 < nowElapsed) (clocks : ℕ → Clock) :
    ∀ b ∈ (s.reBatchAllTimersLocked nowElapsed clocks).alarmBatches, 0 < b.start := by
  refine @Schedule.reBatchAllTimersLocked_invariant (fun bs _ => ∀ b ∈ bs, 0 < b.start) nowElapsed
    clocks s (fun _ hb => (List.not_mem_nil hb).elim) fun bs _ a ha hbs => ?_
  obtain ⟨x, _, clock, hread⟩ := exists_of_mem_reAddedAll ha
  obtain ⟨hle, _⟩ := TimerInfo.reAdded_eq_some hread
  exact insertAndBatch_positive hbs (by omega)

/-- After rescheduling the kernel is armed for batches that are sorted and positive. -/
theorem System.timersArmed_of_reschedule {s : System} {rescheduled : Schedule}
    (hschedule : s.schedule = rescheduled.rescheduleKernelTimerLocked)
    (hsorted : SortedByStart s.schedule.alarmBatches)
    (hpos : ∀ b ∈ s.schedule.alarmBatches, 0 < b.start) : s.TimersArmed := by
  unfold System.TimersArmed
  rw [hschedule] at hsorted hpos ⊢
  exact rescheduleHandler_armedFor hsorted hpos rescheduled.handler

theorem KeepsLead.removesInOrder {s : System} {a : Action} (hok : KeepsLead s a) :
    RemovesInOrder s a := by
  cases a with
  | removeHandler clocks =>
    intro timerNumber uid needDestroy hcall
    exact (hok timerNumber uid needDestroy hcall).imp_right LeadsWithout.inOrder
  | _ => trivial

/-- What is left of batches with positive starts starts at positive times. -/
theorem LeadsWithout.positive {timerNumber : ℕ} {bs : List Batch}
    (hleads : LeadsWithout timerNumber bs) (hwf : ∀ b ∈ bs, b.WF) (hpos : ∀ b ∈ bs, 0 < b.start) :
    ∀ c ∈ (removeBatches timerNumber bs false).1, 0 < c.start := by
  intro c hc
  obtain ⟨x, hx⟩ := List.exists_mem_of_ne_nil _ (removeBatches_wf hwf c hc).nonempty
  obtain ⟨b, hb, _, hle⟩ := hleads.first.remove hwf hc ⟨x, hx, trivial⟩
  exact lt_of_lt_of_le (hpos b hb) hle

/-- **Removals.** One that rebatches arms the timers; one that does not leaves them armed as long as
    nothing starts earlier. -/
theorem System.Armed.removeHandler {s : System} (h : s.Armed) {timerNumber : ℕ} (uid : ℤ)
    (needDestroy : Bool) (clocks : ℕ → Clock)
    (hok : LastHolds timerNumber s.schedule.alarmBatches ∨
      LeadsWithout timerNumber s.schedule.alarmBatches) :
    (∀ b ∈ (s.removeHandler timerNumber uid needDestroy clocks).schedule.alarmBatches,
      0 < b.start) ∧
    ((LastHolds timerNumber s.schedule.alarmBatches ∨ s.TimersArmed) →
      (s.removeHandler timerNumber uid needDestroy clocks).TimersArmed) := by
  unfold System.TimersArmed
  show (∀ b ∈ (s.schedule.removeLocked timerNumber s.bootTime clocks).alarmBatches, 0 < b.start) ∧
    (_ → (s.schedule.removeLocked timerNumber s.bootTime clocks).handler.ArmedFor
      (s.schedule.removeLocked timerNumber s.bootTime clocks).alarmBatches)
  rw [lastHolds_iff] at hok ⊢
  rcases s.schedule.removeLocked_cases timerNumber s.bootTime clocks with ⟨_, heq⟩ | ⟨hdid, heq⟩
  · -- the rebatch sorts and ends with a reschedule
    rw [heq]
    have hpos := Schedule.reBatchAllTimersLocked_positive
      { s.schedule with
        alarmBatches := (removeBatches timerNumber s.schedule.alarmBatches false).1 }
      h.bootTime clocks
    exact ⟨hpos, fun _ => rescheduleHandler_armedFor
      (Schedule.reBatchAllTimersLocked_sorted _ _ _) hpos _⟩
  · -- the timers stay as they are
    rw [hdid] at hok ⊢
    have hleads := hok.resolve_left Bool.false_ne_true
    rw [heq]
    refine ⟨hleads.positive h.wf h.positive, fun harmed => ?_⟩
    exact TimerHandler.ArmedFor.remove (harmed.resolve_left Bool.false_ne_true) h.wf hleads

/-- An insertion ends with a reschedule. -/
theorem System.Armed.setHandlerLocked {s : System} (h : s.Armed) {alarm : TimerInfo}
    (hcall : s.entryCall = some (.setHandlerLocked alarm)) :
    (∀ b ∈ (s.setHandlerLocked alarm).schedule.alarmBatches, 0 < b.start) ∧
      (s.setHandlerLocked alarm).TimersArmed := by
  have hsame := Schedule.setHandlerLocked_alarmBatches s.schedule alarm false
  have hsorted : SortedByStart (s.setHandlerLocked alarm).schedule.alarmBatches := by
    show SortedByStart (s.schedule.setHandlerLocked alarm false).alarmBatches
    rw [hsame]
    exact insertAndBatch_sorted h.sorted alarm
  have hpos : ∀ b ∈ (s.setHandlerLocked alarm).schedule.alarmBatches, 0 < b.start := by
    show ∀ b ∈ (s.schedule.setHandlerLocked alarm false).alarmBatches, 0 < b.start
    rw [hsame]
    exact insertAndBatch_positive h.positive (h.called alarm hcall)
  exact ⟨hpos, System.timersArmed_of_reschedule rfl hsorted hpos⟩

/-- **The kernel alarm, one step.** -/
theorem System.Armed.step {s s' : System} {a : Action} (h : s.Armed) (hok : KeepsLead s a)
    (hcase : StepCase s a s') : s'.Armed := by
  have hwf := hcase.batches_wf h.wf
  have hsorted := hcase.sorted h.wf h.sorted hok.removesInOrder
  have hcalled : ∀ alarm, s'.entryCall = some (.setHandlerLocked alarm) →
      0 < alarm.whenElapsed := by
    refine hcase.called h.called fun _ _ _ _ entry alarm _ _ hset => ?_
    obtain ⟨_, _, _, _, _, hle, _⟩ := setHandler_eq_some hset
    exact lt_of_lt_of_le h.bootTime hle
  cases hcase with
  | insert alarm hcall =>
    obtain ⟨hpos, harmed⟩ := h.setHandlerLocked hcall
    exact ⟨hwf, hsorted, hpos, h.bootTime, h.looper, hcalled, fun _ => harmed⟩
  | remove timerNumber uid needDestroy clocks hcall =>
    obtain ⟨hpos, harmed⟩ := h.removeHandler uid needDestroy clocks
      (hok timerNumber uid needDestroy hcall)
    exact ⟨hwf, hsorted, hpos, h.bootTime, h.looper, hcalled,
      fun hwaiting => harmed (.inr (h.armed hwaiting))⟩
  | wake events nowRtc hlooper =>
    exact ⟨hwf, hsorted, h.positive, h.bootTime, h.bootTime, hcalled,
      fun hwaiting => by cases hwaiting⟩
  | clockKept result nowRtc nowElapsed clocks hlooper =>
    have hpositive := h.looper
    rw [hlooper] at hpositive
    exact ⟨hwf, hsorted, h.positive, h.bootTime, hpositive, hcalled,
      fun hwaiting => by cases hwaiting⟩
  | rebatch result nowRtc nowElapsed clocks hlooper =>
    have hpositive := h.looper
    rw [hlooper] at hpositive
    exact ⟨hwf, hsorted, Schedule.reBatchAllTimersLocked_positive _ h.bootTime clocks, h.bootTime,
      hpositive, hcalled,
      fun hwaiting => by cases hwaiting⟩
  | trigger result nowElapsed triggerList hlooper hlist =>
    -- the pass leaves only batches that start after it
    have hnow : 0 < nowElapsed := by
      have hpositive := h.looper
      rwa [hlooper] at hpositive
    have hpos : ∀ b ∈ (s.trigger nowElapsed triggerList).schedule.alarmBatches, 0 < b.start :=
      fun b hb => hnow.trans (Schedule.triggerTimersLocked_not_due h.sorted nowElapsed b hb)
    exact ⟨hwf, hsorted, hpos, h.bootTime, trivial, hcalled, fun hwaiting => by cases hwaiting⟩
  | noTrigger | deliver =>
    exact ⟨hwf, hsorted, h.positive, h.bootTime, trivial, hcalled,
      fun hwaiting => by cases hwaiting⟩
  | reschedule =>
    exact ⟨hwf, hsorted, h.positive, h.bootTime, trivial, hcalled,
      fun _ => System.timersArmed_of_reschedule rfl hsorted h.positive⟩
  | advance bootTime hle =>
    exact ⟨hwf, hsorted, h.positive, lt_of_lt_of_le h.bootTime hle, h.looper, hcalled,
      fun hwaiting => (h.armed hwaiting).expire bootTime⟩
  | _ => exact ⟨hwf, hsorted, h.positive, h.bootTime, h.looper, hcalled, h.armed⟩

theorem Reachable.armed {s : System} (h : Reachable KeepsLead s) : s.Armed := by
  refine h.invariant (fun bootTime hpos => ?_) fun _ _ _ ht hok hcase => ht.step hok hcase
  exact ⟨fun _ hb => (List.not_mem_nil hb).elim, List.Pairwise.nil,
    fun _ hb => (List.not_mem_nil hb).elim, hpos, trivial, (fun _ hcall => by cases hcall),
    fun _ => ⟨fun hne => absurd rfl hne, fun _ hb => (List.not_mem_nil hb).elim⟩⟩

/-- **The kernel alarm.** In runs whose removals find an alarm of their id in the last batch, or
    leave the batches in order with none too early for the timers, the kernel is armed whenever the
    looper waits; and whatever the looper does, the insertion of a `StartTimer` and a removal that
    rebatches arm it. -/
theorem kernel_armed {s : System} (h : Reachable KeepsLead s) :
    s.KernelArmed ∧
      (∀ alarm, s.entryCall = some (.setHandlerLocked alarm) →
        (s.setHandlerLocked alarm).TimersArmed) ∧
      ∀ timerNumber uid needDestroy clocks,
        s.entryCall = some (.removeHandler timerNumber uid needDestroy) →
        LastHolds timerNumber s.schedule.alarmBatches →
        (s.removeHandler timerNumber uid needDestroy clocks).TimersArmed := by
  refine ⟨h.armed.armed, fun alarm hcall => (h.armed.setHandlerLocked hcall).2,
    fun timerNumber uid needDestroy clocks _ hlast => ?_⟩
  exact (h.armed.removeHandler uid needDestroy clocks (.inl hlast)).2 (.inl hlast)

/-- A wakeup alarm for 200 s behind one for 100 s, after a removal from the last batch. -/
theorem kernel_armed_removed :
    ∃ s : System, s.schedule.alarmBatches.map Batch.start = [100000000000, 200000000000] ∧
      s.schedule.handler.fds wakeupFd = .armed 200000000000 ∧
      s.schedule.handler.fds nonWakeupFd = .armed 100000000000 ∧ s.KernelArmed := by
  obtain ⟨s, hs, hcheck⟩ := @exists_reachable KeepsLead removesLast
    (fun t a hcheck => by
      cases a with
      | removeHandler clocks =>
        intro timerNumber uid needDestroy hcall
        exact .inl (lastHolds_of_removesLast hcheck hcall)
      | _ => trivial)
    1000000000 (by decide)
    ([.createTimer [1] 3 0 0 0 (some 0) 0, .createTimer [2] 2 0 0 0 (some 0) 0,
        .createTimer [3] 3 0 0 0 (some 0) 0] ++
      startTimerCall 1 100000 (fun _ => true) ⟨1000000000, 0⟩ ++
      startTimerCall 2 200000 (fun _ => true) ⟨1000000000, 0⟩ ++
      startTimerCall 3 300000 (fun _ => true) ⟨1000000000, 0⟩ ++
      stopTimerCall 3 ⟨1000000000, 0⟩)
    (fun s => s.schedule.alarmBatches.map Batch.start = [100000000000, 200000000000] ∧
      s.schedule.handler.fds wakeupFd = .armed 200000000000 ∧
      s.schedule.handler.fds nonWakeupFd = .armed 100000000000)
    (by decide +kernel)
  rw [decide_eq_true_eq] at hcheck
  exact ⟨s, hcheck.1, hcheck.2.1, hcheck.2.2, (kernel_armed hs).1⟩

/-- Alarms for 100 s and 150 s share a batch, an exact one for 1000 s has the last.  Stopping the
    second moves the first batch back to 100 s, but nothing rebatches and no timer is armed before
    150 s. -/
theorem armed_late : ¬ ∀ s : System, Reachable Always s → s.KernelArmed := by
  intro hclaim
  obtain ⟨s, hs, hcheck⟩ := exists_reached
    ([.createTimer [1] 3 100000 0 0 (some 0) 0, .createTimer [2] 3 100000 0 0 (some 0) 0,
        .createTimer [3] 3 0 0 0 (some 0) 0] ++
      startTimerCall 1 100000 (fun _ => true) ⟨1000000000, 0⟩ ++
      startTimerCall 2 150000 (fun _ => true) ⟨1000000000, 0⟩ ++
      startTimerCall 3 1000000 (fun _ => true) ⟨1000000000, 0⟩ ++
      stopTimerCall 2 ⟨1000000000, 0⟩)
    (fun s => s.looper = .waiting ∧
      s.schedule.alarmBatches.map Batch.start = [100000000000, 1000000000000] ∧
      s.schedule.handler.fds wakeupFd = .disarmed ∧
      s.schedule.handler.fds nonWakeupFd = .armed 150000000000)
    (by decide +kernel)
  rw [decide_eq_true_eq] at hcheck
  obtain ⟨hwaiting, hstarts, hwakeup, hnonWakeup⟩ := hcheck
  have hmem : (100000000000 : ℤ) ∈ s.schedule.alarmBatches.map Batch.start := by
    rw [hstarts]
    simp
  obtain ⟨b, hb, hstart⟩ := List.mem_map.mp hmem
  obtain ⟨fd, hfd, hcovers⟩ := (hclaim s hs hwaiting).first (List.ne_nil_of_mem hb)
  have hcover := hcovers b hb
  rcases hfd with rfl | rfl
  · rw [hwakeup] at hcover
    exact hcover
  · rw [hnonWakeup, hstart] at hcover
    have hle : (150000000000 : ℤ) ≤ 100000000000 := hcover
    omega

end TimeService
