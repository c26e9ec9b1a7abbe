import TimeService.Timer.Manager

namespace TimeService

open Transition

/-!
# When alarms fire

* `never_early`: in every reachable state of the manager a pass triggers only alarms whose
  `whenElapsed` has come, and so no callback runs and no alarm is held back before it.
-/

/-! ### Never early -/

/-- The boot time the looper has read is not ahead of the boot clock, and what it has still to
    deliver was due. -/
def LooperState.Past (bootTime : ℤ) : LooperState → Prop
  | .waiting => True
  | .woken _ _ nowElapsed => nowElapsed ≤ bootTime
  | .checked _ nowElapsed => nowElapsed ≤ bootTime
  | .delivering triggerList => ∀ a ∈ triggerList, a.whenElapsed ≤ bootTime

theorem LooperState.Past.mono {bootTime later : ℤ} {looper : LooperState}
    (h : looper.Past bootTime) (hle : bootTime ≤ later) : looper.Past later := by
  cases looper with
  | waiting => trivial
  | woken result nowRtc nowElapsed => exact le_trans h hle
  | checked result nowElapsed => exact le_trans h hle
  | delivering triggerList => exact fun a ha => (h a ha).trans hle

/-- Nothing has fired whose time had not come. -/
structure System.Punctual (s : System) : Prop where
  wf : ∀ b ∈ s.schedule.alarmBatches, b.WF
  looper : s.looper.Past s.bootTime
  triggered : ∀ a ∈ s.triggered, a.whenElapsed ≤ s.bootTime
  held : ∀ uid, ∀ a ∈ s.proxy.table.queue uid, a.whenElapsed ≤ s.bootTime
  delivered : ∀ a ∈ s.proxy.delivered, a.whenElapsed ≤ s.bootTime

/-- A trigger list of a pass holds only alarms whose time has come. -/
theorem System.TriggerList.due {s : System} {nowElapsed : ℤ} {triggerList : List TimerInfo}
    (h : s.TriggerList nowElapsed triggerList) (hwf : ∀ b ∈ s.schedule.alarmBatches, b.WF) :
    ∀ a ∈ triggerList, a.whenElapsed ≤ nowElapsed :=
  fun a ha => Schedule.triggerTimersLocked_due hwf nowElapsed a (h.1.mem_iff.mp ha)

/-- The callbacks that an operation on the proxy table invokes are those of held alarms, or of the
    alarm that is delivered. -/
private theorem Punctual.proxy_step {s : System} (h : s.Punctual) (op : ProxyOp)
    (hop : ∀ a, op = .deliver a → a.whenElapsed ≤ s.bootTime) :
    (∀ uid, ∀ a ∈ (s.proxy.step op).table.queue uid, a.whenElapsed ≤ s.bootTime) ∧
      ∀ a ∈ (s.proxy.step op).delivered, a.whenElapsed ≤ s.bootTime := by
  constructor
  · intro uid a ha
    rcases ProxyRun.mem_queue_step ha with ha | ha
    · exact h.held uid a ha
    · exact hop a ha
  · obtain ⟨l, hl, hmem⟩ := s.proxy.step_delivered op
    intro a ha
    rw [hl] at ha
    rcases List.mem_append.mp ha with ha | ha
    · exact h.delivered a ha
    · rcases hmem a ha with ⟨uid, ha⟩ | ha
      · exact h.held uid a ha
      · exact hop a ha

theorem System.Punctual.step {s s' : System} {a : Action} (h : s.Punctual)
    (hcase : StepCase s a s') : s'.Punctual := by
  have hwf := hcase.batches_wf h.wf
  cases hcase with
  | wake events nowRtc hlooper =>
    exact ⟨hwf, le_refl s.bootTime, h.triggered, h.held, h.delivered⟩
  | clockKept result nowRtc nowElapsed clocks hlooper =>
    have hpast := h.looper
    rw [hlooper] at hpast
    exact ⟨hwf, hpast, h.triggered, h.held, h.delivered⟩
  | rebatch result nowRtc nowElapsed clocks hlooper =>
    have hpast := h.looper
    rw [hlooper] at hpast
    exact ⟨hwf, hpast, h.triggered, h.held, h.delivered⟩
  | noTrigger result nowElapsed hlooper =>
    exact ⟨hwf, fun _ hx => (List.not_mem_nil hx).elim, h.triggered, h.held, h.delivered⟩
  | reschedule => exact ⟨hwf, trivial, h.triggered, h.held, h.delivered⟩
  | trigger result nowElapsed triggerList hlooper hlist =>
    have hpast : nowElapsed ≤ s.bootTime := by
      have hpast := h.looper
      rwa [hlooper] at hpast
    have hdue : ∀ x ∈ triggerList, x.whenElapsed ≤ s.bootTime :=
      fun x hx => (hlist.due h.wf x hx).trans hpast
    refine ⟨hwf, hdue, fun x hx => ?_, h.held, h.delivered⟩
    rcases List.mem_append.mp hx with hx | hx
    · exact h.triggered x hx
    · exact hdue x hx
  | deliver alarm rest hlooper =>
    have hdue := h.looper
    rw [hlooper] at hdue
    obtain ⟨hheld, hdelivered⟩ := Punctual.proxy_step h (.deliver alarm) fun x hop => by
      cases hop
      exact hdue alarm List.mem_cons_self
    exact ⟨hwf, fun x hx => hdue x (List.mem_cons_of_mem _ hx), h.triggered, hheld, hdelivered⟩
  | proxyTimer uid isProxy needRetrigger =>
    obtain ⟨hheld, hdelivered⟩ :=
      Punctual.proxy_step h (.proxyTimer uid isProxy needRetrigger) (fun _ hop => by cases hop)
    exact ⟨hwf, h.looper, h.triggered, hheld, hdelivered⟩
  | resetAllProxy =>
    obtain ⟨hheld, hdelivered⟩ := Punctual.proxy_step h .resetAllProxy (fun _ hop => by cases hop)
    exact ⟨hwf, h.looper, h.triggered, hheld, hdelivered⟩
  | removeProxy timerNumber uid needDestroy =>
    obtain ⟨hheld, hdelivered⟩ := Punctual.proxy_step h (.removeProxy timerNumber uid)
      (fun _ hop => by cases hop)
    exact ⟨hwf, h.looper, h.triggered, hheld, hdelivered⟩
  | advance bootTime hle =>
    exact ⟨hwf, h.looper.mono hle, fun x hx => (h.triggered x hx).trans hle,
      fun uid x hx => (h.held uid x hx).trans hle, fun x hx => (h.delivered x hx).trans hle⟩
  | _ => exact ⟨hwf, h.looper, h.triggered, h.held, h.delivered⟩

theorem Reachable.punctual {s : System} (h : Reachable Always s) : s.Punctual := by
  refine h.invariant (fun bootTime _ => ?_) fun _ _ _ ht _ hcase => ht.step hcase
  exact ⟨fun _ hb => (List.not_mem_nil hb).elim, trivial, fun _ ha => (List.not_mem_nil ha).elim,
    fun _ _ ha => (List.not_mem_nil ha).elim, fun _ ha => (List.not_mem_nil ha).elim⟩

/-- **Never early.** In every reachable state a pass at `nowElapsed` puts only alarms with
    `whenElapsed` up to `nowElapsed` in its trigger list, those it has re-armed itself included;
    no callback has run and no alarm has entered a proxy queue before its `whenElapsed`. -/
theorem never_early {s : System} (h : Reachable Always s) :
    (∀ result nowElapsed triggerList s', s.looper = .checked result nowElapsed →
      s.step (.pass triggerList) = some s' → ∀ a ∈ triggerList, a.whenElapsed ≤ nowElapsed) ∧
    (∀ a ∈ s.proxy.delivered, a.whenElapsed ≤ s.bootTime) ∧
    ∀ uid, ∀ a ∈ s.proxy.table.queue uid, a.whenElapsed ≤ s.bootTime := by
  have hp := h.punctual
  refine ⟨?_, hp.delivered, hp.held⟩
  intro result nowElapsed triggerList s' hlooper hstep a ha
  rcases System.step_pass hlooper hstep with ⟨_, hlist, _⟩ | ⟨_, rfl, _⟩
  · exact hlist.due hp.wf a ha
  · cases ha

/-- A pass that triggers an alarm, at its time. -/
theorem never_early_alarm :
    ∃ (s s' : System) (alarm : TimerInfo), s.looper = .checked 8#32 100000000000 ∧
      s.step (.pass [alarm]) = some s' ∧ alarm.whenElapsed ≤ 100000000000 := by
  let alarm := (TimerInfo.make 1 3 100000 100000000000 0 100000000000 0 (some 0) 0 0).triggered
    100000000000
  obtain ⟨s, hs, hcheck⟩ := exists_reached
    (.createTimer [0, 1] 3 0 0 0 (some 0) 0 ::
      startTimerCall 1 100000 (fun _ => true) ⟨1000000000, 0⟩ ++
      [.advance 100000000000, .wake (some [(3, .expired)]) 0,
        .timeChange fun _ => ⟨100000000000, 0⟩])
    (fun s => s.looper = .checked 8#32 100000000000 && (s.step (.pass [alarm])).isSome)
    (by decide +kernel)
  rw [Bool.and_eq_true, decide_eq_true_eq, Option.isSome_iff_exists] at hcheck
  obtain ⟨hlooper, s', hstep⟩ := hcheck
  exact ⟨s, s', alarm, hlooper, hstep,
    (never_early hs).1 _ _ _ s' hlooper hstep alarm (List.mem_singleton.mpr rfl)⟩

end TimeService
