import TimeService.Timer.Deadline
import TimeService.Timer.Firing
import TimeService.Timer.KernelAlarm

namespace TimeService

open Transition

/-!
# Alarms on time

What the batches, the kernel timers and the looper amount to together, for runs whose insertions are
sound and whose removals keep the lead: an alarm is served within its window.

* `due_served`: once the window of a pending alarm is over, a timer of the boot clock has expired,
  and the pass of the iteration that reads an expiry leaves no alarm whose window was over when
  the looper woke, whatever runs in between;
* `rings_in_window`: if time waits for the service (`Urgent`), no alarm is ever pending past its
  window, and the alarms that passes take from the batches are taken within their windows.
-/

/-- A timer of the boot clock. -/
def BootClockFd (fd : Fin (alarmTypeCount + 1)) : Prop := fd = wakeupFd ∨ fd = nonWakeupFd

/-! ### Expiries -/

/-- A timer of the boot clock that covers a time has expired when that time has come. -/
theorem TimerHandler.expire_of_covers {h : TimerHandler} {fd : Fin (alarmTypeCount + 1)}
    (hboot : BootClockFd fd) {time bootTime : ℤ} (hcovers : (h.fds fd).Covers time)
    (hle : time ≤ bootTime) : (h.expire bootTime).fds fd = .expired := by
  show (if fd = wakeupFd ∨ fd = nonWakeupFd then (h.fds fd).expire bootTime else h.fds fd) = _
  rw [if_pos (show fd = wakeupFd ∨ fd = nonWakeupFd from hboot)]
  cases hfd : h.fds fd with
  | disarmed =>
    rw [hfd] at hcovers
    exact hcovers.elim
  | armed t =>
    rw [hfd] at hcovers
    exact if_pos (le_trans hcovers hle)
  | expired => rfl

/-- The bits that `WaitForAlarm` has collected stay set: a failure sets all of them. -/
theorem TimerHandler.readEvents_keeps (events : List (Fin (alarmTypeCount + 1) × ReadAnswer))
    (h : TimerHandler) {result : BitVec 32} {i : ℕ} (hi : i < 32)
    (hbit : result.getLsbD i = true) : (h.readEvents result events).1.getLsbD i = true := by
  induction events generalizing h result with
  | nil => exact hbit
  | cons event rest ih =>
    obtain ⟨alarmIdx, answer⟩ := event
    have hall : (-1#32).getLsbD i = true := by
      rw [BitVec.neg_one_eq_allOnes, BitVec.getLsbD_allOnes]
      simpa using hi
    cases answer with
    | expired =>
      refine ih _ ?_
      rw [BitVec.getLsbD_or, hbit, Bool.true_or]
    | canceled =>
      rw [TimerHandler.readEvents]
      split
      · refine ih _ ?_
        rw [BitVec.getLsbD_or, hbit, Bool.true_or]
      · exact hall
    | failed => exact hall

/-- `WaitForAlarm` sets the bit of a timer whose expiry it has read. -/
theorem TimerHandler.readEvents_sets {fd : Fin (alarmTypeCount + 1)}
    {events : List (Fin (alarmTypeCount + 1) × ReadAnswer)}
    (hmem : (fd, ReadAnswer.expired) ∈ events) (h : TimerHandler) (result : BitVec 32) :
    (h.readEvents result events).1.getLsbD fd.val = true := by
  have hfd : fd.val < 32 := lt_of_lt_of_le fd.isLt (by decide)
  have hall : (-1#32).getLsbD fd.val = true := by
    rw [BitVec.neg_one_eq_allOnes, BitVec.getLsbD_allOnes]
    simpa using hfd
  induction events generalizing h result with
  | nil => cases hmem
  | cons event rest ih =>
    rcases List.mem_cons.mp hmem with rfl | hlater
    · refine TimerHandler.readEvents_keeps rest _ hfd ?_
      rw [BitVec.getLsbD_or, BitVec.getLsbD_shiftLeft]
      simp [hfd]
    · obtain ⟨alarmIdx, answer⟩ := event
      have hrest := ih hlater
      cases answer with
      | expired => exact hrest _ _
      | canceled =>
        rw [TimerHandler.readEvents]
        split
        · exact hrest _ _
        · exact hall
      | failed => exact hall

/-- An iteration that reads an expiry does not only reschedule. -/
theorem TimerHandler.readEvents_ne_timeChangedMask
    {events : List (Fin (alarmTypeCount + 1) × ReadAnswer)} {fd : Fin (alarmTypeCount + 1)}
    (hmem : (fd, ReadAnswer.expired) ∈ events) (h : TimerHandler) :
    (h.readEvents 0#32 events).1 ≠ timeChangedMask := by
  intro heq
  have hbit := h.readEvents_sets hmem 0#32
  have hno : ∀ i : Fin (alarmTypeCount + 1), timeChangedMask.getLsbD i.val = false := by decide
  rw [heq, hno fd] at hbit
  cases hbit

/-! ### What is due is served -/

/-- What a pass leaves is not due when the looper woke. -/
theorem System.Armed.pass_not_due {s s' : System} (h : s.Armed) {result : BitVec 32}
    {nowElapsed : ℤ} {triggerList : List TimerInfo} (hresult : result ≠ timeChangedMask)
    (hlooper : s.looper = .checked result nowElapsed)
    (hstep : s.step (.pass triggerList) = some s') :
    ∀ b ∈ s'.schedule.alarmBatches, nowElapsed < b.start := by
  rcases System.step_pass hlooper hstep with ⟨_, _, rfl⟩ | ⟨heq, _⟩
  · exact Schedule.triggerTimersLocked_not_due h.sorted nowElapsed
  · exact absurd heq hresult

/-- A batch that holds its members starts within the window of each pending alarm. -/
theorem exists_start_le {bs : List Batch} (hholds : ∀ b ∈ bs, b.Holds) {a : TimerInfo}
    (ha : a ∈ pending bs) : ∃ b ∈ bs, a ∈ b.alarms ∧ b.start ≤ a.maxWhenElapsed := by
  obtain ⟨b, hb, hab⟩ := List.mem_flatMap.mp ha
  exact ⟨b, hb, hab, (hholds b hb).deadline a hab⟩

/-- **What is due is served.** In runs whose removals keep the lead and whose insertions are sound,
    while the looper waits: when the window of a pending alarm is over, a timer of the boot clock
    has expired, the wakeup one if the alarm is of a wakeup type; and when the looper then wakes
    from such an expiry and, after any steps of others, makes the pass of this iteration, no alarm
    is left whose window was over when it woke. -/
theorem due_served {s : System} (h : Reachable KeepsLead s)
    (hsound : ∀ i ∈ s.schedule.insertions, i.Sound) (hwaiting : s.looper = .waiting) :
    (∀ a ∈ pending s.schedule.alarmBatches, ∀ bootTime, a.maxWhenElapsed ≤ bootTime →
      ∃ fd, BootClockFd fd ∧ (s.schedule.handler.expire bootTime).fds fd = .expired ∧
        (a.OfWakeupType → fd = wakeupFd)) ∧
    ∀ events nowRtc fd s₁ s₂ s₃ result nowElapsed triggerList, BootClockFd fd →
      (fd, ReadAnswer.expired) ∈ events → s.step (.wake (some events) nowRtc) = some s₁ →
      s₁.looper = .woken result nowRtc nowElapsed → Reaches System.step KeepsLead s₁ s₂ →
      s₂.looper = .checked result nowElapsed → s₂.step (.pass triggerList) = some s₃ →
      (∀ i ∈ s₃.schedule.insertions, i.Sound) →
      ∀ a ∈ pending s₃.schedule.alarmBatches, s.bootTime < a.maxWhenElapsed := by
  constructor
  · intro a ha bootTime hover
    have hholds := h.always.holdsIfSound.1.2 hsound
    obtain ⟨b, hb, hab, hstart⟩ := exists_start_le hholds ha
    have harmed := h.armed.armed hwaiting
    by_cases htype : a.OfWakeupType
    · have hcovers := harmed.wakeup b hb a hab htype
      exact ⟨wakeupFd, .inl rfl,
        TimerHandler.expire_of_covers (.inl rfl) hcovers (hstart.trans hover), fun _ => rfl⟩
    · obtain ⟨fd, hfd, hcovers⟩ := harmed.first (List.ne_nil_of_mem hb)
      exact ⟨fd, hfd, TimerHandler.expire_of_covers hfd (hcovers b hb) (hstart.trans hover),
        fun htype' => absurd htype' htype⟩
  · intro events nowRtc fd s₁ s₂ s₃ result nowElapsed triggerList hboot hmem hwake hwoken hrun
      hchecked hpass hsound₃ a ha
    have hwakes : KeepsLead s (.wake (some events) nowRtc) := trivial
    have hpasses : KeepsLead s₂ (.pass triggerList) := trivial
    have hs₂ := (h.reaches (Reaches.refl.tail hwakes hwake)).reaches hrun
    have hs₃ := hs₂.reaches (Reaches.refl.tail hpasses hpass)
    -- the iteration has read an expiry, so its pass triggers, with the time of its waking
    obtain ⟨_, rfl⟩ := System.step_wake hwake
    obtain ⟨rfl, _, rfl⟩ := LooperState.woken.inj hwoken
    have hresult := TimerHandler.readEvents_ne_timeChangedMask hmem s.schedule.handler
    have hlate := hs₂.armed.pass_not_due hresult hchecked hpass
    obtain ⟨b, hb, _, hstart⟩ := exists_start_le (hs₃.always.holdsIfSound.1.2 hsound₃) ha
    exact lt_of_lt_of_le (hlate b hb) hstart

/-- A repeating wakeup alarm, up to the time it is due. -/
private def dueAlarm : List Action :=
  .createTimer [1] 2 0 100000 0 (some 0) 0 ::
    startTimerCall 1 100000 (fun _ => true) ⟨1000000000, 0⟩ ++ [.advance 100000000000]

private def dueTriggered : TimerInfo :=
  (TimerInfo.make 1 2 100000 100000000000 0 100000000000 100000 (some 0) 0 0).triggered
    100000000000

private theorem keepsLead_of_removesLast (s : System) (a : Action) (h : removesLast s a = true) :
    KeepsLead s a := by
  cases a with
  | removeHandler clocks =>
    intro timerNumber uid needDestroy hcall
    exact .inl (lastHolds_of_removesLast h hcall)
  | _ => trivial

/-- Every insertion has found a first batch that its alarm fits. -/
private def firstFits (s : System) : Bool :=
  s.schedule.insertions.all fun i => i.found.head?.all fun b => b.Fits i.alarm

private theorem sound_of_firstFits {s : System} (h : firstFits s = true) :
    ∀ i ∈ s.schedule.insertions, i.Sound := by
  intro i hi _ b hb
  have hfits := List.all_eq_true.mp h i hi
  rw [Option.mem_def.mp hb] at hfits
  simpa using hfits

/-- A due wakeup alarm, the expiry that stands for it, and its next one after the pass. -/
theorem due_served_next :
    ∃ s s₃ : System, s.bootTime = 100000000000 ∧
      (s.schedule.handler.expire 100000000000).fds wakeupFd = .expired ∧
      (∀ a ∈ pending s₃.schedule.alarmBatches, s.bootTime < a.maxWhenElapsed) ∧
      (pending s₃.schedule.alarmBatches).map TimerInfo.whenElapsed = [200000000000] := by
  let events : List (Fin (alarmTypeCount + 1) × ReadAnswer) := [(wakeupFd, .expired)]
  let clocks : ℕ → Clock := fun _ => ⟨100000000000, 0⟩
  obtain ⟨s, hs, hcheck⟩ := @exists_reachable KeepsLead removesLast keepsLead_of_removesLast
    1000000000 (by decide) dueAlarm
    (fun s => s.bootTime = 100000000000 && s.looper = .waiting && firstFits s &&
      (pending s.schedule.alarmBatches).any (fun a =>
        a.type = 2 && a.maxWhenElapsed = 100000000000) &&
      (s.step (.wake (some events) 0)).any fun s₁ =>
        s₁.looper = .woken 4#32 0 100000000000 && (s₁.step (.timeChange clocks)).any fun s₂ =>
          s₂.looper = .checked 4#32 100000000000 && (s₂.step (.pass [dueTriggered])).any fun s₃ =>
            firstFits s₃ &&
              (pending s₃.schedule.alarmBatches).map TimerInfo.whenElapsed = [200000000000])
    (by decide +kernel)
  simp only [Bool.and_eq_true, decide_eq_true_eq, Option.any_eq_true, List.any_eq_true] at hcheck
  obtain ⟨⟨⟨⟨htime, hwaiting⟩, hfits⟩, a, ha, htype, hover⟩, s₁, hwake, hwoken, s₂, hchange,
    hchecked, s₃, hpass, hfits₃, hnext⟩ := hcheck
  have hserved := due_served hs (sound_of_firstFits hfits) hwaiting
  obtain ⟨fd, _, hexpired, hwakeup⟩ := hserved.1 a ha 100000000000 hover.le
  rw [hwakeup (.inr htype)] at hexpired
  have hkeeps : KeepsLead s₁ (.timeChange clocks) := trivial
  have hleft := hserved.2 events 0 wakeupFd s₁ s₂ s₃ 4#32 100000000000 [dueTriggered] (.inl rfl)
    (List.mem_singleton.mpr rfl) hwake hwoken (Reaches.refl.tail hkeeps hchange) hchecked hpass
    (sound_of_firstFits hfits₃)
  exact ⟨s, s₃, htime, hexpired, hleft, hnext⟩

/-! ### When time waits for the service -/

/-- Nothing is to be done before `bootTime`: the looper waits with no expiry to be read, no timer of
    the boot clock is armed for an earlier time, and no earlier alarm is about to be inserted. -/
structure System.IdleUntil (s : System) (bootTime : ℤ) : Prop where
  looper : s.looper = .waiting
  expired : ∀ fd, BootClockFd fd → s.schedule.handler.fds fd ≠ .expired
  armed : ∀ fd time, BootClockFd fd → s.schedule.handler.fds fd = .armed time → bootTime ≤ time
  called : ∀ alarm, s.entryCall = some (.setHandlerLocked alarm) → bootTime ≤ alarm.whenElapsed

/-- Removals keep the lead, and time does not pass what is to be done. -/
def Urgent (s : System) (a : Action) : Prop :=
  KeepsLead s a ∧ ∀ bootTime, a = .advance bootTime → s.IdleUntil bootTime

/-- The boot time the looper has read is the boot time. -/
def LooperState.Current (bootTime : ℤ) : LooperState → Prop
  | .waiting => True
  | .woken _ _ nowElapsed => nowElapsed = bootTime
  | .checked _ nowElapsed => nowElapsed = bootTime
  | .delivering _ => True

/-- Nothing that is pending, or about to be, starts in the past. -/
structure System.Timely (s : System) : Prop where
  armed : s.Armed
  starts : ∀ b ∈ s.schedule.alarmBatches, s.bootTime ≤ b.start
  called : ∀ alarm, s.entryCall = some (.setHandlerLocked alarm) → s.bootTime ≤ alarm.whenElapsed
  looper : s.looper.Current s.bootTime

theorem insertAndBatch_start_le {bs : List Batch} {time : ℤ} (h : ∀ b ∈ bs, time ≤ b.start)
    {alarm : TimerInfo} (halarm : time ≤ alarm.whenElapsed) :
    ∀ b ∈ insertAndBatch bs alarm, time ≤ b.start :=
  insertAndBatch_forall h halarm fun b _ hb => by
    rw [Batch.add_start]
    exact le_max_of_le_left hb

/-- A rebatch drops what would start in the past. -/
theorem Schedule.reBatchAllTimersLocked_start_le (s : Schedule) (nowElapsed : ℤ)
    (clocks : ℕ → Clock) :
    ∀ b ∈ (s.reBatchAllTimersLocked nowElapsed clocks).alarmBatches, nowElapsed ≤ b.start := by
  refine @Schedule.reBatchAllTimersLocked_invariant (fun bs _ => ∀ b ∈ bs, nowElapsed ≤ b.start)
    nowElapsed clocks s (fun _ hb => (List.not_mem_nil hb).elim) fun bs _ a ha hbs => ?_
  obtain ⟨x, _, clock, hread⟩ := exists_of_mem_reAddedAll ha
  obtain ⟨hle, _⟩ := TimerInfo.reAdded_eq_some hread
  exact insertAndBatch_start_le hbs (by omega)

/-- A removal that rebatches or keeps the lead leaves nothing that starts in the past. -/
theorem System.Timely.removeHandler {s : System} (h : s.Timely) {timerNumber : ℕ} (uid : ℤ)
    (needDestroy : Bool) (clocks : ℕ → Clock)
    (hok : LastHolds timerNumber s.schedule.alarmBatches ∨
      LeadsWithout timerNumber s.schedule.alarmBatches) :
    ∀ b ∈ (s.removeHandler timerNumber uid needDestroy clocks).schedule.alarmBatches,
      s.bootTime ≤ b.start := by
  show ∀ b ∈ (s.schedule.removeLocked timerNumber s.bootTime clocks).alarmBatches,
    s.bootTime ≤ b.start
  rw [lastHolds_iff] at hok
  rcases s.schedule.removeLocked_cases timerNumber s.bootTime clocks with ⟨_, heq⟩ | ⟨hdid, heq⟩
  · rw [heq]
    exact Schedule.reBatchAllTimersLocked_start_le _ s.bootTime clocks
  · rw [hdid] at hok
    have hleads := hok.resolve_left Bool.false_ne_true
    rw [heq]
    intro c hc
    obtain ⟨x, hx⟩ := List.exists_mem_of_ne_nil _ (removeBatches_wf h.armed.wf c hc).nonempty
    obtain ⟨b, hb, _, hle⟩ := hleads.first.remove h.armed.wf hc ⟨x, hx, trivial⟩
    exact (h.starts b hb).trans hle

/-- **Time stops at the first batch**: a timer of the boot clock is armed for it. -/
theorem System.Timely.advance {s : System} (h : s.Timely) {bootTime : ℤ}
    (hidle : s.IdleUntil bootTime) : ∀ b ∈ s.schedule.alarmBatches, bootTime ≤ b.start := by
  intro b hb
  obtain ⟨fd, hboot, hcovers⟩ := (h.armed.armed hidle.looper).first (List.ne_nil_of_mem hb)
  have hcover := hcovers b hb
  cases hfd : s.schedule.handler.fds fd with
  | disarmed =>
    rw [hfd] at hcover
    exact hcover.elim
  | armed time =>
    rw [hfd] at hcover
    exact le_trans (hidle.armed fd time hboot hfd) hcover
  | expired => exact absurd hfd (hidle.expired fd hboot)

/-- **On time, one step.** -/
theorem System.Timely.step {s s' : System} {a : Action} (h : s.Timely) (hok : Urgent s a)
    (hcase : StepCase s a s') : s'.Timely := by
  have harmed := h.armed.step hok.1 hcase
  cases hcase with
  | start timerNumber triggerTime isSystemUid clock entry alarm hfree hentry hset =>
    obtain ⟨_, _, _, _, _, hle, _⟩ := setHandler_eq_some hset
    refine ⟨harmed, h.starts, fun alarm' hcall => ?_, h.looper⟩
    cases hcall
    exact hle
  | insert alarm hcall =>
    refine ⟨harmed, ?_, (fun _ hcall => by cases hcall), h.looper⟩
    show ∀ b ∈ (s.schedule.setHandlerLocked alarm false).alarmBatches, s.bootTime ≤ b.start
    rw [Schedule.setHandlerLocked_alarmBatches]
    exact insertAndBatch_start_le h.starts (h.called alarm hcall)
  | remove timerNumber uid needDestroy clocks hcall =>
    exact ⟨harmed, h.removeHandler uid needDestroy clocks (hok.1 timerNumber uid needDestroy hcall),
      (fun _ hcall => by cases hcall), h.looper⟩
  | wake events nowRtc hlooper => exact ⟨harmed, h.starts, h.called, rfl⟩
  | clockKept result nowRtc nowElapsed clocks hlooper =>
    have hcurrent := h.looper
    rw [hlooper] at hcurrent
    exact ⟨harmed, h.starts, h.called, hcurrent⟩
  | rebatch result nowRtc nowElapsed clocks hlooper =>
    have hcurrent := h.looper
    rw [hlooper] at hcurrent
    exact ⟨harmed, Schedule.reBatchAllTimersLocked_start_le _ s.bootTime clocks, h.called,
      hcurrent⟩
  | trigger result nowElapsed triggerList hlooper hlist =>
    have hcurrent := h.looper
    rw [hlooper] at hcurrent
    obtain rfl : nowElapsed = s.bootTime := hcurrent
    exact ⟨harmed, fun b hb =>
      (Schedule.triggerTimersLocked_not_due h.armed.sorted s.bootTime b hb).le, h.called, trivial⟩
  | noTrigger | deliver | reschedule => exact ⟨harmed, h.starts, h.called, trivial⟩
  | advance bootTime hle =>
    have hidle := hok.2 bootTime rfl
    refine ⟨harmed, h.advance hidle, hidle.called, ?_⟩
    show s.looper.Current bootTime
    rw [hidle.looper]
    trivial
  | stop => exact ⟨harmed, h.starts, (fun _ hcall => by cases hcall), h.looper⟩
  | removeProxy => exact ⟨harmed, h.starts, (fun _ hcall => by cases hcall), h.looper⟩
  | finish => exact ⟨harmed, h.starts, (fun _ hcall => by cases hcall), h.looper⟩
  | _ => exact ⟨harmed, h.starts, h.called, h.looper⟩

theorem Reachable.timely {s : System} (h : Reachable Urgent s) : s.Timely := by
  refine h.invariant (fun bootTime hpos => ?_) fun _ _ _ ht hok hcase => ht.step hok hcase
  have hnew : Reachable KeepsLead (System.init bootTime) := ⟨_, hpos, Reaches.refl⟩
  exact ⟨hnew.armed, fun _ hb => (List.not_mem_nil hb).elim, (fun _ hcall => by cases hcall),
    trivial⟩

/-- **Rings in its window.** In runs in which time waits for what is to be done, whose removals
    keep the lead and whose insertions are sound, no alarm is pending past its window, and every
    alarm that a pass takes from the batches into its trigger list is taken within its window. -/
theorem rings_in_window {s : System} (h : Reachable Urgent s)
    (hsound : ∀ i ∈ s.schedule.insertions, i.Sound) :
    (∀ a ∈ pending s.schedule.alarmBatches, s.bootTime ≤ a.maxWhenElapsed) ∧
    ∀ result nowElapsed triggerList s', s.looper = .checked result nowElapsed →
      s.step (.pass triggerList) = some s' →
      ∀ a ∈ pending s.schedule.alarmBatches, a.triggered nowElapsed ∈ triggerList →
        a.whenElapsed ≤ s.bootTime ∧ s.bootTime ≤ a.maxWhenElapsed := by
  have hwindow : ∀ a ∈ pending s.schedule.alarmBatches, s.bootTime ≤ a.maxWhenElapsed := by
    intro a ha
    obtain ⟨b, hb, _, hstart⟩ := exists_start_le (h.always.holdsIfSound.1.2 hsound) ha
    exact (h.timely.starts b hb).trans hstart
  refine ⟨hwindow, fun result nowElapsed triggerList s' hlooper hstep a ha hmem => ?_⟩
  refine ⟨?_, hwindow a ha⟩
  rcases System.step_pass hlooper hstep with ⟨_, hlist, _⟩ | ⟨_, rfl, _⟩
  · have hcurrent := h.timely.looper
    rw [hlooper] at hcurrent
    have hdue := hlist.due h.timely.armed.wf _ hmem
    exact hdue.trans hcurrent.le
  · cases hmem

/-- Nothing is to be done before `bootTime`, as far as an undisturbed run needs it. -/
private def urgentb (s : System) : Action → Bool
  | .removeHandler _ => false
  | .advance bootTime =>
    s.looper = .waiting && s.entryCall = none &&
      [wakeupFd, nonWakeupFd].all fun fd =>
        match s.schedule.handler.fds fd with
        | .disarmed => true
        | .armed time => bootTime ≤ time
        | .expired => false
  | _ => true

private theorem urgent_of_urgentb (s : System) (a : Action) (h : urgentb s a = true) :
    Urgent s a := by
  refine ⟨?_, ?_⟩
  · cases a with
    | removeHandler => cases h
    | _ => trivial
  · rintro bootTime rfl
    simp only [urgentb, Bool.and_eq_true, decide_eq_true_eq, List.all_eq_true] at h
    obtain ⟨⟨hwaiting, hfree⟩, htimers⟩ := h
    have hfd : ∀ fd, BootClockFd fd → fd ∈ [wakeupFd, nonWakeupFd] := by
      rintro fd (rfl | rfl) <;> simp
    refine ⟨hwaiting, fun fd hboot hexpired => ?_, fun fd time hboot harmed => ?_, ?_⟩
    · have htimer := htimers fd (hfd fd hboot)
      rw [hexpired] at htimer
      cases htimer
    · have htimer := htimers fd (hfd fd hboot)
      rw [harmed] at htimer
      simpa using htimer
    · intro alarm hcall
      rw [hfree] at hcall
      cases hcall

/-- The pass that takes an exact alarm takes it at its time. -/
theorem rings_in_window_exact :
    ∃ s : System, ∃ a ∈ pending s.schedule.alarmBatches, a.whenElapsed = 100000000000 ∧
      a.maxWhenElapsed = 100000000000 ∧ a.whenElapsed ≤ s.bootTime ∧
        s.bootTime ≤ a.maxWhenElapsed := by
  obtain ⟨s, hs, hcheck⟩ := @exists_reachable Urgent urgentb urgent_of_urgentb
    1000000000 (by decide)
    (dueAlarm ++ [.wake (some [(wakeupFd, .expired)]) 0, .timeChange fun _ => ⟨100000000000, 0⟩])
    (fun s => s.looper = .checked 4#32 100000000000 && firstFits s &&
      (s.step (.pass [dueTriggered])).isSome &&
      (pending s.schedule.alarmBatches).any fun a => a.whenElapsed = 100000000000 &&
        a.maxWhenElapsed = 100000000000 && a.triggered 100000000000 = dueTriggered)
    (by decide +kernel)
  simp only [Bool.and_eq_true, decide_eq_true_eq, Option.isSome_iff_exists, List.any_eq_true]
    at hcheck
  obtain ⟨⟨⟨hlooper, hfits⟩, s', hstep⟩, a, ha, ⟨hwhen, hmax⟩, htriggered⟩ := hcheck
  have hwindow := (rings_in_window hs (sound_of_firstFits hfits)).2 _ _ _ s' hlooper hstep a ha
    (by rw [htriggered]; exact List.mem_singleton.mpr rfl)
  exact ⟨s, a, ha, hwhen, hmax, hwindow⟩

end TimeService
