import TimeService.Timer.Agreement

namespace TimeService

open Transition

/-!
# A stopped timer stays silent

A fired alarm of a proxied uid waits in the proxy queue, so a stop has to purge the batches and the
queue; what the looper has triggered is delivered before a stop gets `mutex_`.  `RemoveProxy` erases
from a copy of the queue and writes nothing back, so it purges only a queue that holds alarms of no
other timer: `PurgesProxy` is the condition on its steps.

* `stopped_silent`: in runs that meet it, no callback of a stopped timer runs until the timer is
  started again;
* `stopped_rings`: with two timers held for one uid, the stopped one still rings.
-/

/-- A step that runs `RemoveProxy` finds no alarm of the stopped timer in the queue of its uid, or
    no alarm of any other timer. -/
def PurgesProxy (s : System) (a : Action) : Prop :=
  a = .removeProxy → ∀ timerNumber uid needDestroy,
    s.entryCall = some (.removeProxy timerNumber uid needDestroy) →
      (∀ x ∈ s.proxy.table.queue uid, x.id ≠ timerNumber) ∨
        ∀ x ∈ s.proxy.table.queue uid, x.id = timerNumber

/-- `StartTimer` is not called for `timerNumber`. -/
def NotStarting (timerNumber : ℕ) (_ : System) (a : Action) : Prop :=
  ∀ triggerTime isSystemUid clock, a ≠ .startTimer timerNumber triggerTime isSystemUid clock

/-! ### Held alarms -/

/-- The table agrees with the proxy queues and with what the looper has still to deliver: these are
    alarms of timers in the table, a stop knows the uid of its timer, behind `RemoveHandler` no
    alarm of the id is to be delivered, and behind `RemoveProxy` none is held. -/
structure System.HeldAgrees (s : System) : Prop where
  known : ∀ uid, ∀ a ∈ s.proxy.table.queue uid, s.Known a
  delivering : ∀ a ∈ s.looper.toDeliver, s.Known a
  undelivered : ∀ timerNumber, s.Removed timerNumber →
    ∀ a ∈ s.looper.toDeliver, a.id ≠ timerNumber
  stopping : ∀ timerNumber uid needDestroy,
    s.entryCall = some (.removeHandler timerNumber uid needDestroy) ∨
      s.entryCall = some (.removeProxy timerNumber uid needDestroy) →
    ∃ entry, s.timerEntryMap.lookup timerNumber = some entry ∧ entry.uid = uid
  purged : ∀ timerNumber needDestroy, s.entryCall = some (.finishStop timerNumber needDestroy) →
    ∀ uid, ∀ a ∈ s.proxy.table.queue uid, a.id ≠ timerNumber

theorem System.HeldAgrees.init (bootTime : ℤ) : (System.init bootTime).HeldAgrees where
  known uid a ha := (List.not_mem_nil ha).elim
  delivering a ha := (List.not_mem_nil ha).elim
  undelivered timerNumber _ a ha := (List.not_mem_nil ha).elim
  stopping timerNumber uid needDestroy h := by rcases h with h | h <;> cases h
  purged timerNumber needDestroy h := by cases h

/-- What a step fires comes from the batches. -/
theorem System.TriggerList.forall {s : System} {P : TimerInfo → Prop} {nowElapsed : ℤ}
    {triggerList : List TimerInfo} (h : s.TriggerList nowElapsed triggerList)
    (hpending : ∀ x ∈ pending s.schedule.alarmBatches, P x)
    (hnext : ∀ x, P x → P (x.next nowElapsed))
    (htriggered : ∀ x, P x → P (x.triggered nowElapsed)) :
    ∀ x ∈ triggerList, P x := by
  intro x hx
  obtain ⟨y, hy, rfl⟩ :=
    (Schedule.triggerTimersLocked_forall hpending hnext).2 x (h.1.mem_iff.mp hx)
  exact htriggered y hy

/-- A purging `RemoveProxy` leaves no alarm of the stopped timer in any queue: held alarms of the
    timer are held for the uid of its entry. -/
theorem System.HeldAgrees.purge {s : System} (h : s.HeldAgrees) (hwf : s.proxy.table.WF)
    {timerNumber : ℕ} {uid : ℤ} {needDestroy : Bool}
    (hcall : s.entryCall = some (.removeProxy timerNumber uid needDestroy))
    (hpurges : (∀ x ∈ s.proxy.table.queue uid, x.id ≠ timerNumber) ∨
      ∀ x ∈ s.proxy.table.queue uid, x.id = timerNumber) :
    ∀ k, ∀ a ∈ (s.proxy.table.removeProxy timerNumber uid).queue k, a.id ≠ timerNumber := by
  obtain ⟨stopped, hstopped, huid⟩ := h.stopping timerNumber uid needDestroy (.inr hcall)
  -- a held alarm of the timer has the uid of the entry, and is held for it
  have hown : ∀ k, ∀ a ∈ s.proxy.table.queue k, a.id = timerNumber → k = uid := by
    intro k a ha hid
    obtain ⟨entry, hentry, hm⟩ := h.known k a ha
    rw [hid, hstopped] at hentry
    obtain rfl := Option.some.inj hentry
    rw [← hwf.uid_eq k a ha, hm.uid_eq, huid]
  intro k a ha hid
  rcases ProxyTable.removeProxy_cases hwf timerNumber uid with ⟨_, _, hqueue⟩ | ⟨hother, heq⟩
  · rw [hqueue] at ha
    split at ha
    · cases ha
    · rename_i hne
      exact hne (hown k a ha hid)
  · rw [heq] at ha
    obtain rfl := hown k a ha hid
    obtain ⟨x, hx, hxid⟩ := hother
    rcases hpurges with hpurges | hpurges
    · exact hpurges a ha hid
    · exact hxid (hpurges x hx)

/-- **Held alarms, one step.** -/
theorem System.HeldAgrees.step {s s' : System} {a : Action} (h : s.HeldAgrees) (hagrees : s.Agrees)
    (hwf : s.proxy.table.WF) (hok : PurgesProxy s a) (hcase : StepCase s a s') :
    s'.HeldAgrees := by
  -- an operation that fires nothing holds nothing new
  have hproxy : ∀ op : ProxyOp, (∀ x, op ≠ .deliver x) →
      ∀ uid, ∀ x ∈ (s.proxy.step op).table.queue uid, x ∈ s.proxy.table.queue uid := by
    intro op hop uid x hx
    exact (ProxyRun.mem_queue_step hx).resolve_right (hop x)
  cases hcase with
  | create randoms type windowLength interval flag callback uid timerNumber hfree =>
    have hmono : ∀ x, s.Known x →
        (s.createTimer timerNumber type windowLength interval flag callback uid).Known x :=
      fun x ⟨entry, hentry, hm⟩ => ⟨entry, lookup_createTimer hentry, hm⟩
    refine ⟨fun k x hx => hmono x (h.known k x hx), fun x hx => hmono x (h.delivering x hx),
      h.undelivered, fun k kuid nd hk => ?_, h.purged⟩
    obtain ⟨entry, hentry, huid⟩ := h.stopping k kuid nd hk
    exact ⟨entry, lookup_createTimer hentry, huid⟩
  | start | insert =>
    refine ⟨h.known, h.delivering, fun k hrem => ?_, fun _ _ _ hk => ?_, fun _ _ hk => by cases hk⟩
    · rcases hrem with ⟨_, _, hrem⟩ | ⟨_, hrem⟩ <;> cases hrem
    · rcases hk with hk | hk <;> cases hk
  | stop timerNumber entry needDestroy hfree hentry =>
    refine ⟨h.known, h.delivering, fun k hrem => ?_, fun _ _ _ hk => ?_, fun _ _ hk => by cases hk⟩
    · rcases hrem with ⟨_, _, hrem⟩ | ⟨_, hrem⟩ <;> cases hrem
    · rcases hk with hk | hk <;> cases hk
      exact ⟨entry, hentry, rfl⟩
  | remove timerNumber uid needDestroy clocks hcall hmutex =>
    -- the alarms go while nothing is being delivered
    have hnone : (s.removeHandler timerNumber uid needDestroy clocks).looper.toDeliver = [] :=
      LooperState.toDeliver_of_free hmutex
    refine ⟨h.known, h.delivering, fun k _ x hx => ?_, fun k kuid nd hk => ?_,
      fun _ _ hk => by cases hk⟩
    · rw [hnone] at hx
      cases hx
    · rcases hk with hk | hk
      · cases hk
      · cases hk
        exact h.stopping timerNumber uid needDestroy (.inl hcall)
  | removeProxy timerNumber uid needDestroy hcall =>
    refine ⟨fun k x hx => ?_, h.delivering, fun k hrem => ?_, fun _ _ _ hk => ?_,
      fun k nd hk => ?_⟩
    · exact h.known k x (hproxy (.removeProxy timerNumber uid) (fun _ hop => by cases hop) k x hx)
    · rcases hrem with ⟨_, _, hrem⟩ | ⟨_, hrem⟩
      · cases hrem
      · cases hrem
        exact h.undelivered timerNumber (.inl ⟨uid, needDestroy, hcall⟩)
    · rcases hk with hk | hk <;> cases hk
    · cases hk
      exact h.purge hwf hcall (hok rfl timerNumber uid needDestroy hcall)
  | finish timerNumber needDestroy hcall =>
    -- the erased entry is that of no alarm held or to be delivered
    have hkept : ∀ x : TimerInfo, s.Known x → x.id ≠ timerNumber →
        (s.finishStop timerNumber needDestroy).Known x :=
      fun x ⟨entry, hentry, hm⟩ hne => ⟨entry, (lookup_finishStop hne).trans hentry, hm⟩
    refine ⟨fun k x hx => ?_, fun x hx => ?_, fun k hrem => ?_, fun _ _ _ hk => ?_,
      fun _ _ hk => by cases hk⟩
    · exact hkept x (h.known k x hx) (h.purged timerNumber needDestroy hcall k x hx)
    · exact hkept x (h.delivering x hx)
        (h.undelivered timerNumber (.inr ⟨needDestroy, hcall⟩) x hx)
    · rcases hrem with ⟨_, _, hrem⟩ | ⟨_, hrem⟩ <;> cases hrem
    · rcases hk with hk | hk <;> cases hk
  | trigger result nowElapsed triggerList hlooper hlist =>
    -- what fires was pending, so it is known and not of a timer that is being stopped
    have hfired : ∀ x ∈ triggerList, s.Known x :=
      hlist.forall hagrees.known (fun _ hx => hx.next nowElapsed)
        fun _ hx => hx.triggered nowElapsed
    refine ⟨h.known, hfired, fun k hrem => ?_, h.stopping, h.purged⟩
    exact hlist.forall (hagrees.removed k hrem) (fun _ hne => hne) (fun _ hne => hne)
  | deliver alarm rest hlooper =>
    have hall := h.delivering
    have hother := h.undelivered
    rw [hlooper] at hall hother
    refine ⟨fun k x hx => ?_, fun x hx => hall x (List.mem_cons_of_mem _ hx),
      fun k hrem x hx => hother k hrem x (List.mem_cons_of_mem _ hx), h.stopping,
      fun k nd hk kuid x hx => ?_⟩
    · rcases ProxyRun.mem_queue_step hx with hx | hop
      · exact h.known k x hx
      · cases hop
        exact hall alarm List.mem_cons_self
    · rcases ProxyRun.mem_queue_step hx with hx | hop
      · exact h.purged k nd hk kuid x hx
      · cases hop
        exact hother k (.inr ⟨nd, hk⟩) alarm List.mem_cons_self
  | proxyTimer uid isProxy needRetrigger =>
    have hsub := hproxy (.proxyTimer uid isProxy needRetrigger) fun _ hop => by cases hop
    exact ⟨fun k x hx => h.known k x (hsub k x hx), h.delivering, h.undelivered, h.stopping,
      fun k nd hk kuid x hx => h.purged k nd hk kuid x (hsub kuid x hx)⟩
  | resetAllProxy =>
    have hsub := hproxy .resetAllProxy fun _ hop => by cases hop
    exact ⟨fun k x hx => h.known k x (hsub k x hx), h.delivering, h.undelivered, h.stopping,
      fun k nd hk kuid x hx => h.purged k nd hk kuid x (hsub kuid x hx)⟩
  | wake | clockKept | rebatch | noTrigger | reschedule =>
    exact ⟨h.known, fun _ hx => (List.not_mem_nil hx).elim,
      fun _ _ _ hx => (List.not_mem_nil hx).elim, h.stopping, h.purged⟩
  | _ => exact ⟨h.known, h.delivering, h.undelivered, h.stopping, h.purged⟩

theorem Reachable.heldAgrees {s : System} (h : Reachable PurgesProxy s) : s.HeldAgrees := by
  refine (@Reachable.invariant PurgesProxy
    (fun t => (∃ ops, t.proxy = ProxyRun.run ops) ∧ t.Agrees ∧ t.HeldAgrees) s h ?_ ?_).2.2
  · intro bootTime _
    exact ⟨⟨[], rfl⟩, System.Agrees.init bootTime, System.HeldAgrees.init bootTime⟩
  · rintro t a t' ⟨hrun, hagrees, hheld⟩ hok hcase
    refine ⟨hcase.proxy_run hrun, hagrees.step hcase, hheld.step hagrees ?_ hok hcase⟩
    obtain ⟨ops, hops⟩ := hrun
    rw [hops]
    exact ProxyRun.run_wf ops

/-! ### Silence -/

/-- No alarm of `timerNumber` is anywhere on its way to its callback. -/
structure System.Silent (s : System) (timerNumber : ℕ) : Prop where
  agrees : s.Agrees
  pending : ∀ a ∈ pending s.schedule.alarmBatches, a.id ≠ timerNumber
  delivering : ∀ a ∈ s.looper.toDeliver, a.id ≠ timerNumber
  held : ∀ uid, ∀ a ∈ s.proxy.table.queue uid, a.id ≠ timerNumber
  called : ∀ alarm, s.entryCall = some (.setHandlerLocked alarm) → alarm.id ≠ timerNumber

/-- **Silence, one step.** Without a start of the timer nothing of it is invoked, and it stays
    silent. -/
theorem System.Silent.step {s s' : System} {a : Action} {timerNumber : ℕ}
    (h : s.Silent timerNumber) (hok : NotStarting timerNumber s a) (hcase : StepCase s a s') :
    s'.Silent timerNumber ∧
      ∃ l, s'.proxy.delivered = s.proxy.delivered ++ l ∧ ∀ x ∈ l, x.id ≠ timerNumber := by
  have hpending := hcase.pending_id h.pending h.called
  have hagrees := h.agrees.step hcase
  have hcalled : ∀ alarm, s'.entryCall = some (.setHandlerLocked alarm) →
      alarm.id ≠ timerNumber := by
    apply hcase.called h.called
    rintro k triggerTime isSystemUid clock entry alarm rfl hentry hset
    obtain ⟨hid, _⟩ := setHandler_eq_some hset
    rw [hid, h.agrees.keys k entry hentry]
    rintro rfl
    exact hok _ _ _ rfl
  have hproxy : ∀ op : ProxyOp, (∀ x, op = .deliver x → x.id ≠ timerNumber) →
      (∀ uid, ∀ x ∈ (s.proxy.step op).table.queue uid, x.id ≠ timerNumber) ∧
        ∃ l, (s.proxy.step op).delivered = s.proxy.delivered ++ l ∧
          ∀ x ∈ l, x.id ≠ timerNumber := by
    intro op hop
    refine ⟨fun uid x hx => (ProxyRun.mem_queue_step hx).elim (h.held uid x) (hop x), ?_⟩
    obtain ⟨l, hl, hmem⟩ := s.proxy.step_delivered op
    refine ⟨l, hl, fun x hx => ?_⟩
    exact (hmem x hx).elim (fun ⟨uid, hx⟩ => h.held uid x hx) (hop x)
  cases hcase with
  | removeProxy k uid needDestroy =>
    obtain ⟨hheld, hlog⟩ := hproxy (.removeProxy k uid) fun _ hop => by cases hop
    exact ⟨⟨hagrees, hpending, h.delivering, hheld, hcalled⟩, hlog⟩
  | proxyTimer uid isProxy needRetrigger =>
    obtain ⟨hheld, hlog⟩ :=
      hproxy (.proxyTimer uid isProxy needRetrigger) fun _ hop => by cases hop
    exact ⟨⟨hagrees, hpending, h.delivering, hheld, hcalled⟩, hlog⟩
  | resetAllProxy =>
    obtain ⟨hheld, hlog⟩ := hproxy .resetAllProxy fun _ hop => by cases hop
    exact ⟨⟨hagrees, hpending, h.delivering, hheld, hcalled⟩, hlog⟩
  | trigger result nowElapsed triggerList hlooper hlist =>
    have hfired : ∀ x ∈ triggerList, x.id ≠ timerNumber :=
      hlist.forall h.pending (fun _ hx => hx) fun _ hx => hx
    exact ⟨⟨hagrees, hpending, hfired, h.held, hcalled⟩, [], (List.append_nil _).symm, by simp⟩
  | deliver alarm rest hlooper =>
    have hall := h.delivering
    rw [hlooper] at hall
    obtain ⟨hheld, hlog⟩ := hproxy (.deliver alarm) fun x hop => by
      cases hop
      exact hall alarm List.mem_cons_self
    exact ⟨⟨hagrees, hpending, fun x hx => hall x (List.mem_cons_of_mem _ hx), hheld, hcalled⟩,
      hlog⟩
  | wake | clockKept | rebatch | noTrigger | reschedule =>
    exact ⟨⟨hagrees, hpending, fun _ hx => (List.not_mem_nil hx).elim, h.held, hcalled⟩, [],
      (List.append_nil _).symm, by simp⟩
  | _ =>
    exact ⟨⟨hagrees, hpending, h.delivering, h.held, hcalled⟩, [], (List.append_nil _).symm,
      by simp⟩

/-- **A stopped timer stays silent.** In a run whose `RemoveProxy` steps all purge, once a
    `StopTimer` or `DestroyTimer` of `timerNumber` has returned true, no continuation without a
    `StartTimer` of it invokes its callback, by whatever operation. -/
theorem stopped_silent {s s' s'' : System} {timerNumber : ℕ} {needDestroy : Bool}
    (h : Reachable PurgesProxy s)
    (hcall : s.entryCall = some (.finishStop timerNumber needDestroy))
    (hstep : s.step .finishStop = some s')
    (hrun : Reaches System.step (NotStarting timerNumber) s' s'') :
    ∃ l, s''.proxy.delivered = s'.proxy.delivered ++ l ∧ ∀ a ∈ l, a.id ≠ timerNumber := by
  have hagrees := h.agrees
  have hs' := System.step_finishStop hcall hstep
  have hsilent : s'.Silent timerNumber := by
    refine ⟨hagrees.step (System.stepCase hstep), ?_, ?_, ?_, ?_⟩ <;> rw [hs']
    · exact hagrees.removed timerNumber (.inr ⟨needDestroy, hcall⟩)
    · exact h.heldAgrees.undelivered timerNumber (.inr ⟨needDestroy, hcall⟩)
    · exact h.heldAgrees.purged timerNumber needDestroy hcall
    · intro alarm halarm
      cases halarm
  refine (@Reaches.log _ _ _ _ _ _ _ (fun t => t.Silent timerNumber) (fun a => a.id ≠ timerNumber)
    (fun t => t.proxy.delivered) hrun ?_ hsilent).2
  exact fun t a t' ht hok hs => ht.step hok (System.stepCase hs)

/-- A check for computed runs: a `RemoveProxy` to come finds alarms of no other timer. -/
def System.stopsAlone (s : System) : Bool :=
  match s.entryCall with
  | some (.removeProxy timerNumber uid _) =>
    (s.proxy.table.queue uid).all fun x => x.id = timerNumber
  | _ => true

theorem purgesProxy_of_stopsAlone {s : System} {a : Action} (h : s.stopsAlone = true) :
    PurgesProxy s a := by
  intro _ timerNumber uid needDestroy hcall
  unfold System.stopsAlone at h
  simp only [hcall, List.all_eq_true, decide_eq_true_eq] at h
  exact .inr h

/-- A timer held alone for its uid is silent once it is stopped, also when all proxies are reset. -/
theorem stopped_silent_alone :
    ∃ s' s'' : System, s'.proxy.delivered = [] ∧ s''.proxy.table.proxyUids = ∅ ∧
      ∀ a ∈ s''.proxy.delivered, a.id ≠ 1 := by
  let alarm := (TimerInfo.make 1 3 100000 100000000000 0 100000000000 0 (some 0) 0 7).triggered
    100000000000
  obtain ⟨s, hs, hcheck⟩ := @exists_reachable PurgesProxy (fun s _ => s.stopsAlone)
    (fun _ _ h => purgesProxy_of_stopsAlone h) 1000000000 (by decide)
    ([.createTimer [1] 3 0 0 0 (some 0) 7, .proxyTimer 7 true true] ++
      startTimerCall 1 100000 (fun _ => true) ⟨1000000000, 0⟩ ++ [.advance 100000000000] ++
      expiryIteration 3 ⟨100000000000, 0⟩ [alarm] ++
      [.stopTimer 1, .removeHandler fun _ => ⟨100000000000, 0⟩, .removeProxy])
    (fun s => s.entryCall = some (.finishStop 1 false) &&
      (s.step .finishStop).any fun (s' : System) => decide (s'.proxy.delivered = []) &&
        (s'.step .resetAllProxy).any fun (s'' : System) =>
        s''.proxy.table.proxyUids = ∅)
    (by decide +kernel)
  simp only [Bool.and_eq_true, decide_eq_true_eq, Option.any_eq_true] at hcheck
  obtain ⟨hcall, s', hstep, hnone, s'', hreset, hempty⟩ := hcheck
  have hrun : Reaches System.step (NotStarting 1) s' s'' :=
    Reaches.tail Reaches.refl (fun _ _ _ h => by cases h) hreset
  obtain ⟨l, hl, hids⟩ := stopped_silent hs hcall hstep hrun
  refine ⟨s', s'', hnone, hempty, ?_⟩
  rw [hl, hnone]
  exact hids

/-- Two timers are held for one uid; the first is stopped, and rings when the proxy of the uid
    ends. -/
theorem stopped_rings :
    ¬ ∀ (s s' s'' : System) (timerNumber : ℕ) (needDestroy : Bool), Reachable Always s →
      s.entryCall = some (.finishStop timerNumber needDestroy) → s.step .finishStop = some s' →
      Reaches System.step (NotStarting timerNumber) s' s'' →
      ∃ l, s''.proxy.delivered = s'.proxy.delivered ++ l ∧ ∀ a ∈ l, a.id ≠ timerNumber := by
  intro hclaim
  let first := (TimerInfo.make 1 3 100000 100000000000 0 100000000000 0 (some 0) 0 7).triggered
    200000000000
  let second := (TimerInfo.make 2 3 200000 200000000000 0 200000000000 0 (some 0) 0 7).triggered
    200000000000
  obtain ⟨s, hs, hcheck⟩ := exists_reached
    ([.createTimer [1] 3 0 0 0 (some 0) 7, .createTimer [2] 3 0 0 0 (some 0) 7,
        .proxyTimer 7 true true] ++
      startTimerCall 1 100000 (fun _ => true) ⟨1000000000, 0⟩ ++
      startTimerCall 2 200000 (fun _ => true) ⟨1000000000, 0⟩ ++ [.advance 200000000000] ++
      expiryIteration 3 ⟨200000000000, 0⟩ [first, second] ++
      [.stopTimer 1, .removeHandler fun _ => ⟨200000000000, 0⟩, .removeProxy])
    (fun s => s.entryCall = some (.finishStop 1 false) &&
      (s.step .finishStop).any fun (s' : System) => decide (s'.proxy.delivered = []) &&
        (s'.step (.proxyTimer 7 false true)).any fun (s'' : System) =>
        s''.proxy.delivered.any fun a => a.id = 1)
    (by decide +kernel)
  simp only [Bool.and_eq_true, decide_eq_true_eq, Option.any_eq_true, List.any_eq_true] at hcheck
  obtain ⟨hcall, s', hstep, hnone, s'', hrelease, a, ha, hid⟩ := hcheck
  have hrun : Reaches System.step (NotStarting 1) s' s'' :=
    Reaches.tail Reaches.refl (fun _ _ _ h => by cases h) hrelease
  obtain ⟨l, hl, hids⟩ := hclaim s s' s'' 1 false hs hcall hstep hrun
  rw [hl, hnone] at ha
  exact hids a ha hid

end TimeService
