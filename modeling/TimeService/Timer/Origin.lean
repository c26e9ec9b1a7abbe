import TimeService.Timer.Silence

namespace TimeService

open Transition

/-!
# Where alarms come from

An alarm is handed on from `SetHandler` to the batches, to trigger lists, to the proxy queues and to
its callback, and rebatches and passes put new ones in the place of old ones.

* `System.Everywhere.step`: the rule for what all of this keeps of an alarm, wherever it is;
* `System.Stems.step`: every alarm is, wherever it is, one of a timer that `CreateTimer` has made,
  with the type, the uid and the callback of that timer, and repeats if and only if it does.
-/

/-! ### All alarms -/

/-- The alarms of the manager have `P`, wherever they are. -/
structure System.Everywhere (P : TimerInfo → Prop) (s : System) : Prop where
  pending : ∀ a ∈ pending s.schedule.alarmBatches, P a
  called : ∀ alarm, s.entryCall = some (.setHandlerLocked alarm) → P alarm
  triggered : ∀ a ∈ s.triggered, P a
  delivering : ∀ a ∈ s.looper.toDeliver, P a
  held : ∀ uid, ∀ a ∈ s.proxy.table.queue uid, P a
  delivered : ∀ a ∈ s.proxy.delivered, P a

theorem System.Everywhere.mono {P Q : TimerInfo → Prop} {s : System} (h : s.Everywhere P)
    (hweaker : ∀ a, P a → Q a) : s.Everywhere Q where
  pending a ha := hweaker a (h.pending a ha)
  called alarm hcall := hweaker alarm (h.called alarm hcall)
  triggered a ha := hweaker a (h.triggered a ha)
  delivering a ha := hweaker a (h.delivering a ha)
  held uid a ha := hweaker a (h.held uid a ha)
  delivered a ha := hweaker a (h.delivered a ha)

/-- An operation on the proxy table moves held alarms, or delivers one. -/
theorem System.Everywhere.proxy_step {P : TimerInfo → Prop} {s : System} (h : s.Everywhere P)
    {op : ProxyOp} (hop : ∀ a, op = .deliver a → P a) :
    (∀ uid, ∀ a ∈ (s.proxy.step op).table.queue uid, P a) ∧
      ∀ a ∈ (s.proxy.step op).delivered, P a := by
  refine ⟨fun uid a ha => (ProxyRun.mem_queue_step ha).elim (h.held uid a) (hop a), ?_⟩
  obtain ⟨l, hl, hmem⟩ := s.proxy.step_delivered op
  intro a ha
  rw [hl] at ha
  rcases List.mem_append.mp ha with ha | ha
  · exact h.delivered a ha
  · exact (hmem a ha).elim (fun ⟨uid, ha⟩ => h.held uid a ha) (hop a)

/-- **Alarm rule.** What `SetHandler` gives an alarm and re-arming, triggering and re-adding keep,
    all alarms have wherever they are. -/
theorem System.Everywhere.step {P : TimerInfo → Prop} {s s' : System} {a : Action}
    (h : s.Everywhere P) (hcase : StepCase s a s')
    (hset : ∀ timerNumber triggerTime isSystemUid clock (entry : TimerEntry) alarm,
      a = .startTimer timerNumber triggerTime isSystemUid clock →
      s.timerEntryMap.lookup timerNumber = some entry →
      setHandler isSystemUid s.bootTime clock entry.id entry.type triggerTime entry.windowLength
        entry.interval entry.flag entry.callback entry.uid = some alarm → P alarm)
    (hnext : ∀ nowElapsed x, P x → P (x.next nowElapsed))
    (htriggered : ∀ nowElapsed x, P x → P (x.triggered nowElapsed))
    (hreAdded : ∀ nowElapsed clock x y, P x → x.reAdded nowElapsed clock = some y → P y) :
    s'.Everywhere P := by
  have hpending := hcase.pending h.pending h.called hnext hreAdded
  have hcalled := hcase.called h.called hset
  cases hcase with
  | removeProxy timerNumber uid =>
    obtain ⟨hheld, hdelivered⟩ := @System.Everywhere.proxy_step P s h
      (.removeProxy timerNumber uid) fun _ hop => by cases hop
    exact ⟨hpending, hcalled, h.triggered, h.delivering, hheld, hdelivered⟩
  | proxyTimer uid isProxy needRetrigger =>
    obtain ⟨hheld, hdelivered⟩ := @System.Everywhere.proxy_step P s h
      (.proxyTimer uid isProxy needRetrigger) fun _ hop => by cases hop
    exact ⟨hpending, hcalled, h.triggered, h.delivering, hheld, hdelivered⟩
  | resetAllProxy =>
    obtain ⟨hheld, hdelivered⟩ := @System.Everywhere.proxy_step P s h .resetAllProxy
      fun _ hop => by cases hop
    exact ⟨hpending, hcalled, h.triggered, h.delivering, hheld, hdelivered⟩
  | trigger result nowElapsed triggerList hlooper hlist =>
    have hfired : ∀ x ∈ triggerList, P x :=
      hlist.forall h.pending (hnext nowElapsed) (htriggered nowElapsed)
    refine ⟨hpending, hcalled, fun x hx => ?_, hfired, h.held, h.delivered⟩
    exact (List.mem_append.mp hx).elim (h.triggered x) (hfired x)
  | deliver alarm rest hlooper =>
    have hall := h.delivering
    rw [hlooper] at hall
    obtain ⟨hheld, hdelivered⟩ := @System.Everywhere.proxy_step P s h (.deliver alarm)
      fun x hop => by
        cases hop
        exact hall alarm List.mem_cons_self
    exact ⟨hpending, hcalled, h.triggered, fun x hx => hall x (List.mem_cons_of_mem _ hx), hheld,
      hdelivered⟩
  | wake | clockKept | rebatch | noTrigger | reschedule =>
    exact ⟨hpending, hcalled, h.triggered, fun _ hx => (List.not_mem_nil hx).elim, h.held,
      h.delivered⟩
  | _ => exact ⟨hpending, hcalled, h.triggered, h.delivering, h.held, h.delivered⟩

theorem System.Everywhere.init (P : TimerInfo → Prop) (bootTime : ℤ) :
    (System.init bootTime).Everywhere P where
  pending a ha := (List.not_mem_nil ha).elim
  called alarm h := by cases h
  triggered a ha := (List.not_mem_nil ha).elim
  delivering a ha := (List.not_mem_nil ha).elim
  held uid a ha := (List.not_mem_nil ha).elim
  delivered a ha := (List.not_mem_nil ha).elim

/-- What was invoked stays on the record. -/
theorem StepCase.delivered {s s' : System} {a : Action} (h : StepCase s a s') :
    ∃ l, s'.proxy.delivered = s.proxy.delivered ++ l := by
  cases h with
  | removeProxy timerNumber uid =>
    exact (s.proxy.step_delivered (.removeProxy timerNumber uid)).imp fun _ hl => hl.1
  | proxyTimer uid isProxy needRetrigger =>
    exact (s.proxy.step_delivered (.proxyTimer uid isProxy needRetrigger)).imp fun _ hl => hl.1
  | resetAllProxy => exact (s.proxy.step_delivered .resetAllProxy).imp fun _ hl => hl.1
  | deliver alarm => exact (s.proxy.step_delivered (.deliver alarm)).imp fun _ hl => hl.1
  | _ => exact ⟨[], (List.append_nil _).symm⟩

/-! ### The timer of an alarm -/

/-- The alarm is one of the timer of this entry, and repeats as the timer does. -/
structure TimerEntry.Rings (entry : TimerEntry) (a : TimerInfo) : Prop
    extends entry.Matches a where
  wakeup_eq : a.wakeup = (entry.type = TimerType.elapsedRealtimeWakeup.value
    || entry.type = TimerType.rtcWakeup.value)
  repeats_iff : 0 < a.repeatInterval ↔ 0 < milliseconds entry.interval

/-- The clamps leave a repeating timer repeating, and one that does not repeat as it is. -/
theorem clampedInterval_pos_iff (system : Bool) (intervalDuration : ℤ) :
    0 < clampedInterval system intervalDuration ↔ 0 < intervalDuration := by
  have hmin : 0 < minIntervalOf system := by cases system <;> decide
  have hmax : 0 < maxInterval := by decide
  unfold clampedInterval
  split
  · rename_i hsmall
    exact iff_of_true hmin hsmall.1
  · split
    · rename_i hlarge
      exact iff_of_true hmax (hmax.trans hlarge)
    · rfl

theorem setHandler_rings {isSystemUid : ℤ → Bool} {nowElapsed : ℤ} {clock : Clock}
    {triggerTime : ℕ} {entry : TimerEntry} {alarm : TimerInfo}
    (h : setHandler isSystemUid nowElapsed clock entry.id entry.type triggerTime entry.windowLength
      entry.interval entry.flag entry.callback entry.uid = some alarm) : entry.Rings alarm := by
  obtain ⟨hid, htype, hflags, huid, hcallback, _⟩ := setHandler_eq_some h
  have hfields := setHandler_fields h
  refine ⟨⟨hid, htype, hflags, huid, hcallback⟩, ?_, ?_⟩
  · unfold setHandler at h
    simp only at h
    split at h
    · cases h
    · rw [← Option.some.inj h]
      rfl
  · rw [hfields.repeatInterval_eq, clampedInterval_pos_iff]

theorem TimerEntry.Rings.next {entry : TimerEntry} (nowElapsed : ℤ) {a : TimerInfo}
    (h : entry.Rings a) : entry.Rings (a.next nowElapsed) := by
  refine ⟨⟨h.id_eq, h.type_eq, h.flags_eq, h.uid_eq, h.callback_eq⟩, ?_, h.repeats_iff⟩
  rw [← h.type_eq]
  rfl

theorem TimerEntry.Rings.triggered {entry : TimerEntry} (nowElapsed : ℤ) {a : TimerInfo}
    (h : entry.Rings a) : entry.Rings (a.triggered nowElapsed) :=
  ⟨⟨h.id_eq, h.type_eq, h.flags_eq, h.uid_eq, h.callback_eq⟩, h.wakeup_eq, h.repeats_iff⟩

theorem TimerEntry.Rings.reAdded {entry : TimerEntry} {nowElapsed : ℤ} {clock : Clock}
    {x y : TimerInfo} (h : entry.Rings x) (hread : x.reAdded nowElapsed clock = some y) :
    entry.Rings y := by
  obtain ⟨_, _, _, _, rfl⟩ := TimerInfo.reAdded_eq_some hread
  exact ⟨⟨h.id_eq, h.type_eq, h.flags_eq, h.uid_eq, h.callback_eq⟩, h.wakeup_eq, h.repeats_iff⟩

/-- The entries of the table have `P`, and every alarm is one of a timer with `P`. -/
structure System.Stems (P : TimerEntry → Prop) (s : System) : Prop where
  entries : ∀ timerNumber entry, s.timerEntryMap.lookup timerNumber = some entry → P entry
  alarms : s.Everywhere fun a => ∃ entry, P entry ∧ entry.Rings a

theorem System.Stems.init (P : TimerEntry → Prop) (bootTime : ℤ) :
    (System.init bootTime).Stems P where
  entries timerNumber entry h := by cases h
  alarms := System.Everywhere.init _ bootTime

theorem System.Stems.mono {P Q : TimerEntry → Prop} {s : System} (h : s.Stems P)
    (hweaker : ∀ entry, P entry → Q entry) : s.Stems Q where
  entries timerNumber entry hentry := hweaker entry (h.entries timerNumber entry hentry)
  alarms := h.alarms.mono fun _ ⟨entry, hP, hrings⟩ => ⟨entry, hweaker entry hP, hrings⟩

/-- **Origin, one step.** If the timer that a step creates has `P`, everything stems from timers
    with `P` after it. -/
theorem System.Stems.step {P : TimerEntry → Prop} {s s' : System} {a : Action} (h : s.Stems P)
    (hcase : StepCase s a s')
    (hcreate : ∀ randoms type windowLength interval flag callback uid timerNumber,
      a = .createTimer randoms type windowLength interval flag callback uid →
      randoms.find? (fun n => n ≠ 0) = some timerNumber →
      P ⟨timerNumber, type, windowLength, interval, flag, callback, uid⟩) : s'.Stems P := by
  have halarms : s'.Everywhere fun a => ∃ entry, P entry ∧ entry.Rings a := by
    refine h.alarms.step hcase ?_ ?_ ?_ ?_
    · intro timerNumber _ _ _ entry alarm _ hentry hset
      exact ⟨entry, h.entries timerNumber entry hentry, setHandler_rings hset⟩
    · rintro nowElapsed x ⟨entry, hP, hrings⟩
      exact ⟨entry, hP, hrings.next nowElapsed⟩
    · rintro nowElapsed x ⟨entry, hP, hrings⟩
      exact ⟨entry, hP, hrings.triggered nowElapsed⟩
    · rintro nowElapsed clock x y ⟨entry, hP, hrings⟩ hread
      exact ⟨entry, hP, hrings.reAdded hread⟩
  refine ⟨?_, halarms⟩
  cases hcase with
  | create randoms type windowLength interval flag callback uid timerNumber _ _ hdrawn =>
    intro k entry hentry
    rw [System.createTimer_lookup] at hentry
    split at hentry
    · rw [← Option.some.inj hentry]
      exact hcreate _ _ _ _ _ _ _ timerNumber rfl hdrawn
    · exact h.entries k entry hentry
  | finish timerNumber needDestroy =>
    intro k entry hentry
    by_cases hk : k = timerNumber
    · subst hk
      unfold System.finishStop at hentry
      cases needDestroy with
      | false => exact h.entries k entry hentry
      | true =>
        simp only [if_true] at hentry
        rw [AList.lookup_erase] at hentry
        cases hentry
    · rw [lookup_finishStop hk] at hentry
      exact h.entries k entry hentry
  | _ => exact h.entries

end TimeService
