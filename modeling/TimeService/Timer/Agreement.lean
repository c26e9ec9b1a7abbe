import TimeService.Timer.Manager

namespace TimeService

open Transition

/-!
# Agreement of the timer table and the batches

The table and the batches are guarded by different mutexes, and the looper re-arms alarms without
looking at the table.  They agree nevertheless in every interleaving: `System.Agrees` is the
invariant, in which a destroy that is under way has taken the alarms of its id out of the batches
before it erases the entry.

* `table_agreement`: every pending alarm is one of a timer in the table, with its data, and once
  `DestroyTimer` has returned no alarm of the id comes back.
-/

/-- The alarm is one of the timer of this entry. -/
structure TimerEntry.Matches (entry : TimerEntry) (a : TimerInfo) : Prop where
  id_eq : a.id = entry.id
  type_eq : a.type = entry.type
  flags_eq : a.flags = BitVec.ofInt 32 entry.flag
  uid_eq : a.uid = entry.uid
  callback_eq : a.callback = entry.callback

/-- The alarm is one of a timer in the table. -/
def System.Known (s : System) (a : TimerInfo) : Prop :=
  ∃ entry, s.timerEntryMap.lookup a.id = some entry ∧ entry.Matches a

/-- A stop of `timerNumber` is under way and has taken its alarms out of the batches. -/
def System.Removed (s : System) (timerNumber : ℕ) : Prop :=
  (∃ uid needDestroy, s.entryCall = some (.removeProxy timerNumber uid needDestroy)) ∨
    ∃ needDestroy, s.entryCall = some (.finishStop timerNumber needDestroy)

/-- The table and the batches agree. -/
structure System.Agrees (s : System) : Prop where
  keys : ∀ timerNumber entry, s.timerEntryMap.lookup timerNumber = some entry →
    entry.id = timerNumber
  known : ∀ a ∈ pending s.schedule.alarmBatches, s.Known a
  called : ∀ alarm, s.entryCall = some (.setHandlerLocked alarm) → s.Known alarm
  removed : ∀ timerNumber, s.Removed timerNumber →
    ∀ a ∈ pending s.schedule.alarmBatches, a.id ≠ timerNumber

/-! ### What alarms keep -/

theorem System.Known.next {s : System} (nowElapsed : ℤ) {a : TimerInfo} (h : s.Known a) :
    s.Known (a.next nowElapsed) := by
  obtain ⟨entry, hentry, hm⟩ := h
  exact ⟨entry, hentry, hm.id_eq, hm.type_eq, hm.flags_eq, hm.uid_eq, hm.callback_eq⟩

theorem System.Known.triggered {s : System} (nowElapsed : ℤ) {a : TimerInfo} (h : s.Known a) :
    s.Known (a.triggered nowElapsed) := by
  obtain ⟨entry, hentry, hm⟩ := h
  exact ⟨entry, hentry, hm.id_eq, hm.type_eq, hm.flags_eq, hm.uid_eq, hm.callback_eq⟩

theorem System.Known.reAdded {s : System} {nowElapsed : ℤ} {clock : Clock} {x y : TimerInfo}
    (h : s.Known x) (hread : x.reAdded nowElapsed clock = some y) : s.Known y := by
  obtain ⟨entry, hentry, hm⟩ := h
  obtain ⟨_, _, _, _, rfl⟩ := TimerInfo.reAdded_eq_some hread
  exact ⟨entry, hentry, hm.id_eq, hm.type_eq, hm.flags_eq, hm.uid_eq, hm.callback_eq⟩

/-- A step inserts alarms of `timerNumber` only when the call under way does. -/
theorem StepCase.pending_id {s s' : System} {a : Action} (h : StepCase s a s') {timerNumber : ℕ}
    (hnone : ∀ x ∈ TimeService.pending s.schedule.alarmBatches, x.id ≠ timerNumber)
    (hcall : ∀ alarm, s.entryCall = some (.setHandlerLocked alarm) → alarm.id ≠ timerNumber) :
    ∀ x ∈ TimeService.pending s'.schedule.alarmBatches, x.id ≠ timerNumber :=
  h.pending hnone hcall (fun _ _ hx => hx)
    fun _ _ _ _ hx hread => by rwa [TimerInfo.reAdded_id hread]

/-! ### What the table keeps -/

/-- The entries after `CreateTimer`: those there were, and a new one unless its number was used. -/
theorem System.createTimer_lookup {s : System} {timerNumber : ℕ} {type : ℤ}
    {windowLength interval : ℕ} {flag : ℤ} {callback : Callback} {uid : ℤ} {k : ℕ} :
    (s.createTimer timerNumber type windowLength interval flag callback uid).timerEntryMap.lookup k
      = if k = timerNumber ∧ timerNumber ∉ s.timerEntryMap then
          some ⟨timerNumber, type, windowLength, interval, flag, callback, uid⟩
        else s.timerEntryMap.lookup k := by
  show AList.lookup k (if timerNumber ∈ s.timerEntryMap then s.timerEntryMap
    else s.timerEntryMap.insert timerNumber _) = _
  by_cases hused : timerNumber ∈ s.timerEntryMap
  · simp [hused]
  · by_cases hk : k = timerNumber
    · subst hk
      simp [hused]
    · simp [hused, hk, AList.lookup_insert_ne hk]

/-- A lookup that succeeds is not changed by `CreateTimer`. -/
theorem lookup_createTimer {s : System} {k timerNumber : ℕ} {type : ℤ} {windowLength interval : ℕ}
    {flag : ℤ} {callback : Callback} {uid : ℤ} {entry : TimerEntry}
    (h : s.timerEntryMap.lookup k = some entry) :
    (s.createTimer timerNumber type windowLength interval flag callback uid).timerEntryMap.lookup k
      = some entry := by
  rw [System.createTimer_lookup, if_neg, h]
  rintro ⟨rfl, hnew⟩
  exact hnew (AList.lookup_isSome.mp (by rw [h]; rfl))

theorem keys_createTimer {s : System} (h : s.Agrees) (timerNumber : ℕ) (type : ℤ)
    (windowLength interval : ℕ) (flag : ℤ) (callback : Callback) (uid : ℤ) (k : ℕ)
    (entry : TimerEntry) (hentry : (s.createTimer timerNumber type windowLength interval flag
      callback uid).timerEntryMap.lookup k = some entry) : entry.id = k := by
  rw [System.createTimer_lookup] at hentry
  split at hentry
  · rename_i hnew
    rw [← Option.some.inj hentry, hnew.1]
  · exact h.keys k entry hentry

theorem lookup_finishStop {s : System} {k timerNumber : ℕ} {needDestroy : Bool}
    (hne : k ≠ timerNumber) :
    (s.finishStop timerNumber needDestroy).timerEntryMap.lookup k = s.timerEntryMap.lookup k := by
  unfold System.finishStop
  cases needDestroy with
  | false => rfl
  | true => exact AList.lookup_erase_ne hne

/-! ### The invariant -/

theorem System.Agrees.init (bootTime : ℤ) : (System.init bootTime).Agrees where
  keys timerNumber entry h := by cases h
  known a ha := (List.not_mem_nil ha).elim
  called alarm h := by cases h
  removed timerNumber h := by rcases h with ⟨_, _, h⟩ | ⟨_, h⟩ <;> cases h

/-- **Agreement, one step.** -/
theorem System.Agrees.step {s s' : System} {a : Action} (h : s.Agrees) (hcase : StepCase s a s') :
    s'.Agrees := by
  -- in the old table every alarm pending after the step is known, and a removed id stays away
  have hknown : ∀ x ∈ pending s'.schedule.alarmBatches, s.Known x :=
    hcase.pending h.known h.called (fun now _ hx => hx.next now) fun _ _ _ _ hx hread =>
      hx.reAdded hread
  have hremoved : ∀ timerNumber, s.Removed timerNumber →
      ∀ x ∈ pending s'.schedule.alarmBatches, x.id ≠ timerNumber := by
    intro timerNumber hrem
    refine hcase.pending_id (h.removed timerNumber hrem) fun alarm hcall => ?_
    rcases hrem with ⟨_, _, hrem⟩ | ⟨_, hrem⟩ <;> rw [hcall] at hrem <;> cases hrem
  have hcalled : ∀ alarm, s'.entryCall = some (.setHandlerLocked alarm) → s.Known alarm := by
    refine hcase.called h.called fun timerNumber _ _ _ entry alarm _ hentry hset => ?_
    obtain ⟨hid, htype, hflags, huid, hcallback, _⟩ := setHandler_eq_some hset
    refine ⟨entry, ?_, hid, htype, hflags, huid, hcallback⟩
    rw [hid, h.keys timerNumber entry hentry]
    exact hentry
  cases hcase with
  | create randoms type windowLength interval flag callback uid timerNumber hfree =>
    -- `insert` keeps an entry that is there
    have hmono : ∀ x, s.Known x →
        (s.createTimer timerNumber type windowLength interval flag callback uid).Known x :=
      fun x ⟨entry, hentry, hm⟩ => ⟨entry, lookup_createTimer hentry, hm⟩
    exact ⟨keys_createTimer h timerNumber type windowLength interval flag callback uid,
      fun x hx => hmono x (hknown x hx), fun alarm halarm => hmono alarm (hcalled alarm halarm),
      hremoved⟩
  | finish timerNumber needDestroy hcall =>
    refine ⟨fun k entry hentry => ?_, fun x hx => ?_, fun alarm halarm => ?_, fun k hrem => ?_⟩
    · unfold System.finishStop at hentry
      by_cases hk : k = timerNumber
      · subst hk
        cases needDestroy with
        | false => exact h.keys k entry hentry
        | true =>
          simp only [if_true] at hentry
          rw [AList.lookup_erase] at hentry
          cases hentry
      · have hsame := @lookup_finishStop s k timerNumber needDestroy hk
        exact h.keys k entry (hsame ▸ hentry)
    · -- the erased entry is that of no pending alarm
      obtain ⟨entry, hentry, hm⟩ := hknown x hx
      have hne := hremoved timerNumber (.inr ⟨needDestroy, hcall⟩) x hx
      exact ⟨entry, (lookup_finishStop hne).trans hentry, hm⟩
    · cases halarm
    · rcases hrem with ⟨_, _, hrem⟩ | ⟨_, hrem⟩ <;> cases hrem
  | remove timerNumber uid needDestroy clocks hcall =>
    -- what is left, re-added or not, is of other ids
    refine ⟨h.keys, hknown, hcalled, fun k hrem => ?_⟩
    rcases hrem with ⟨_, _, hrem⟩ | ⟨_, hrem⟩
    · cases hrem
      exact Schedule.removeLocked_forall (fun x _ hne => hne)
        fun _ _ _ _ hx hread => by rwa [TimerInfo.reAdded_id hread]
    · cases hrem
  | removeProxy timerNumber uid needDestroy hcall =>
    refine ⟨h.keys, hknown, hcalled, fun k hrem => ?_⟩
    rcases hrem with ⟨_, _, hrem⟩ | ⟨_, hrem⟩
    · cases hrem
    · cases hrem
      exact hremoved timerNumber (.inl ⟨uid, needDestroy, hcall⟩)
  | start | insert | stop =>
    -- behind these the call under way is not one that has removed
    refine ⟨h.keys, hknown, hcalled, fun k hrem => ?_⟩
    rcases hrem with ⟨_, _, hrem⟩ | ⟨_, hrem⟩ <;> cases hrem
  | _ => exact ⟨h.keys, hknown, hcalled, hremoved⟩

theorem Reachable.agrees {ok : System → Action → Prop} {s : System} (h : Reachable ok s) :
    s.Agrees :=
  h.invariant (fun bootTime _ => System.Agrees.init bootTime) fun _ _ _ ht _ hcase => ht.step hcase

/-! ### After a destroy -/

/-- `CreateTimer` does not draw `timerNumber`. -/
def NotCreating (timerNumber : ℕ) (_ : System) (a : Action) : Prop :=
  ∀ randoms type windowLength interval flag callback uid,
    a = .createTimer randoms type windowLength interval flag callback uid →
      randoms.find? (fun n => n ≠ 0) ≠ some timerNumber

/-- An id that is not drawn again does not come back into the table. -/
theorem StepCase.lookup_eq_none {s s' : System} {a : Action} (hcase : StepCase s a s')
    {timerNumber : ℕ} (hok : NotCreating timerNumber s a)
    (h : s.timerEntryMap.lookup timerNumber = none) :
    s'.timerEntryMap.lookup timerNumber = none := by
  cases hcase with
  | create randoms type windowLength interval flag callback uid drawn hfree hnumber hdrawn =>
    have hne : timerNumber ≠ drawn := by
      rintro rfl
      exact hok _ _ _ _ _ _ _ rfl hdrawn
    rw [System.createTimer_lookup, if_neg fun hnew => hne hnew.1]
    exact h
  | finish k needDestroy hcall =>
    by_cases hk : timerNumber = k
    · subst hk
      unfold System.finishStop
      cases needDestroy with
      | false => exact h
      | true => exact AList.lookup_erase _ _
    · rw [lookup_finishStop hk]
      exact h
  | _ => exact h

/-- **Agreement.** In every reachable state, whatever the interleaving of calls and passes, every
    pending alarm has an entry under its id, with its type, flags, uid and callback, and no batch
    is empty.  Once `DestroyTimer` has returned true no alarm of the id is pending again, until
    the id is drawn again. -/
theorem table_agreement {s : System} (h : Reachable Always s) :
    (∀ a ∈ pending s.schedule.alarmBatches,
      ∃ entry, s.timerEntryMap.lookup a.id = some entry ∧ entry.Matches a) ∧
    (∀ b ∈ s.schedule.alarmBatches, b.alarms ≠ []) ∧
    ∀ timerNumber s' s'', s.entryCall = some (.finishStop timerNumber true) →
      s.step .finishStop = some s' → Reaches System.step (NotCreating timerNumber) s' s'' →
      ∀ a ∈ pending s''.schedule.alarmBatches, a.id ≠ timerNumber := by
  refine ⟨h.agrees.known, fun b hb => (h.batches_wf b hb).nonempty, ?_⟩
  intro timerNumber s' s'' hcall hstep hrun a ha heq
  have hs' := System.step_finishStop hcall hstep
  have hnone : s'.timerEntryMap.lookup timerNumber = none := by
    rw [hs']
    exact AList.lookup_erase _ _
  have hgone : s''.timerEntryMap.lookup timerNumber = none :=
    @Reaches.invariant _ _ _ _ _ _ (fun t => t.timerEntryMap.lookup timerNumber = none) hrun
      (fun t b t' ht hok hs => (System.stepCase hs).lookup_eq_none hok ht) hnone
  have hreach : s''.Agrees :=
    hrun.invariant (fun t b t' ht _ hs => ht.step (System.stepCase hs))
      (h.agrees.step (System.stepCase hstep))
  obtain ⟨entry, hentry, _⟩ := hreach.known a ha
  rw [heq, hgone] at hentry
  cases hentry

/-- Two timers of which one is destroyed: the alarm of the other agrees with its entry. -/
theorem table_agreement_destroyed :
    ∃ s : System, s.timerEntryMap.lookup 1 = none ∧
      (pending s.schedule.alarmBatches).map TimerInfo.id = [2] ∧
      ∀ a ∈ pending s.schedule.alarmBatches,
        ∃ entry, s.timerEntryMap.lookup a.id = some entry ∧ entry.Matches a := by
  obtain ⟨s, hs, hcheck⟩ := exists_reached
    ([.createTimer [1] 3 0 0 0 (some 0) 0, .createTimer [2] 3 0 5000 0 (some 0) 7] ++
      startTimerCall 1 100000 (fun _ => true) ⟨1000000000, 0⟩ ++
      startTimerCall 2 200000 (fun _ => true) ⟨1000000000, 0⟩ ++
      destroyTimerCall 1 ⟨1000000000, 0⟩)
    (fun s => s.timerEntryMap.lookup 1 = none &&
      decide ((pending s.schedule.alarmBatches).map TimerInfo.id = [2]))
    (by decide +kernel)
  simp only [Bool.and_eq_true, decide_eq_true_eq] at hcheck
  exact ⟨s, hcheck.1, hcheck.2, (table_agreement hs).1⟩

end TimeService
