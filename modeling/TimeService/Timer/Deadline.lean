import TimeService.Timer.Manager

namespace TimeService

open Transition

/-!
# Deadlines of batched alarms

A batch fires at its start, so its start must not lie past the end of a member's window, and a
`STANDALONE` alarm must be alone in its batch: `Batch.Holds`.

`AttemptCoalesceLocked` tests batches until one passes but answers the index of the first of the
list, so an insertion is sound only when the first batch is the one that would pass:

* `insertAndBatch_holds_iff`: an insertion keeps the batches holding exactly when it is sound;
* `batches_hold`: while all insertions of a run are sound, every batch holds its members;
* `deadline_missed`: an insertion that is not sound may carry an alarm past its window.
-/

/-- The batch starts within the window of every member, and a `STANDALONE` member is alone. -/
structure Batch.Holds (b : Batch) : Prop where
  deadline : ∀ a ∈ b.alarms, b.start ≤ a.maxWhenElapsed
  alone : ∀ a ∈ b.alarms, a.flags &&& standalone ≠ 0#32 → b.alarms = [a]

/-- The batch can take the alarm in: none of its members is `STANDALONE` and the windows meet.  The
    test of `AttemptCoalesceLocked` asks for a little more, `end_` strictly after the alarm. -/
def Batch.Fits (b : Batch) (alarm : TimerInfo) : Prop :=
  b.flags &&& standalone = 0#32 ∧ alarm.whenElapsed ≤ b.end_ ∧ b.start ≤ alarm.maxWhenElapsed

instance (b : Batch) (alarm : TimerInfo) : Decidable (b.Fits alarm) :=
  inferInstanceAs (Decidable (_ ∧ _))

/-- When the search finds a batch, the alarm fits the first batch of the list. -/
def Insertion.Sound (i : Insertion) : Prop :=
  Coalesces i.found i.alarm → ∀ b ∈ i.found.head?, b.Fits i.alarm

/-! ### Windows -/

/-- The window of the alarm is not empty. -/
def TimerInfo.Windowed (a : TimerInfo) : Prop := a.whenElapsed ≤ a.maxWhenElapsed

theorem setHandler_windowed {isSystemUid : ℤ → Bool} {nowElapsed : ℤ} {clock : Clock} {id : ℕ}
    {type : ℤ} {triggerAtTime windowLength interval : ℕ} {flag : ℤ} {callback : Callback} {uid : ℤ}
    {alarm : TimerInfo} (h : setHandler isSystemUid nowElapsed clock id type triggerAtTime
      windowLength interval flag callback uid = some alarm) : alarm.Windowed := by
  obtain ⟨_, _, _, _, _, _, hwindow⟩ := setHandler_eq_some h
  exact hwindow

theorem TimerInfo.reAdded_windowed {nowElapsed : ℤ} {clock : Clock} {x y : TimerInfo}
    (h : x.reAdded nowElapsed clock = some y) : y.Windowed := by
  unfold TimerInfo.reAdded at h
  simp only at h
  split at h
  · cases h
  · cases h
    unfold TimerInfo.Windowed
    simp only
    split
    · exact le_refl _
    · split
      · simp only [msToNs]
        omega
      · exact le_maxTriggerTime _ _ _

theorem TimerInfo.next_windowed (nowElapsed : ℤ) (x : TimerInfo) :
    (x.next nowElapsed).Windowed := by
  rw [TimerInfo.Windowed, TimerInfo.next_maxWhenElapsed]
  exact le_maxTriggerTime _ _ _

/-! ### The operations on a batch -/

theorem Batch.ofSeed_holds {alarm : TimerInfo} (h : alarm.Windowed) :
    (Batch.ofSeed alarm).Holds := by
  constructor
  · intro a ha
    rw [List.mem_singleton.mp ha]
    exact h
  · intro a ha _
    rw [List.mem_singleton.mp ha]
    rfl

/-- A batch takes an alarm in exactly when the alarm fits. -/
theorem Batch.Holds.add_iff {b : Batch} (h : b.Holds) (hwf : b.WF) {alarm : TimerInfo}
    (hwindow : alarm.Windowed) (hflag : alarm.flags &&& standalone = 0#32) :
    (b.add alarm).1.Holds ↔ b.Fits alarm := by
  have hmem : ∀ x, x ∈ (b.add alarm).1.alarms ↔ x = alarm ∨ x ∈ b.alarms := by
    intro x
    rw [(b.add_alarms_perm alarm).mem_iff, List.mem_cons]
  constructor
  · intro hadd
    have hdeadline : ∀ a, a = alarm ∨ a ∈ b.alarms →
        b.start ≤ a.maxWhenElapsed ∧ alarm.whenElapsed ≤ a.maxWhenElapsed := by
      intro a ha
      have := hadd.deadline a ((hmem a).mpr ha)
      rw [Batch.add_start] at this
      exact max_le_iff.mp this
    refine ⟨?_, ?_, (hdeadline alarm (.inl rfl)).1⟩
    · -- a `STANDALONE` member would have to be alone, but the batch has one member more
      rw [hwf.flags_eq, unionFlags_and_eq_zero]
      intro a ha
      by_contra hstandalone
      have hlength := (b.add_alarms_perm alarm).length_eq
      rw [hadd.alone a ((hmem a).mpr (.inr ha)) hstandalone, List.length_singleton,
        List.length_cons] at hlength
      have hpos := List.length_pos_of_mem ha
      omega
    · obtain ⟨a, ha, hend⟩ := hwf.exists_end
      rw [← hend]
      exact (hdeadline a (.inr ha)).2
  · rintro ⟨hflags, hend, hstart⟩
    rw [hwf.flags_eq, unionFlags_and_eq_zero] at hflags
    constructor
    · intro a ha
      rw [Batch.add_start]
      rcases (hmem a).mp ha with rfl | ha
      · exact max_le hstart hwindow
      · exact max_le (h.deadline a ha) (hend.trans (hwf.end_le_maxWhenElapsed ha))
    · intro a ha hflag'
      rcases (hmem a).mp ha with rfl | ha
      · exact absurd hflag hflag'
      · exact absurd (hflags a ha) hflag'

/-- Removing members moves the start only to earlier times. -/
theorem Batch.Holds.remove {b : Batch} (h : b.Holds) (hwf : b.WF) (predicate : TimerInfo → Bool)
    (hkept : (b.remove predicate).1.alarms ≠ []) : (b.remove predicate).1.Holds := by
  have hsub : ∀ a ∈ (b.remove predicate).1.alarms, a ∈ b.alarms := by
    intro a ha
    rw [Batch.remove_alarms] at ha
    exact List.mem_of_mem_filter ha
  obtain ⟨first, hfirst, hstart⟩ := (Batch.remove_wf hwf predicate hkept).exists_start
  have hle := hwf.whenElapsed_le_start (hsub first hfirst)
  constructor
  · intro a ha
    have hdeadline := h.deadline a (hsub a ha)
    omega
  · intro a ha hflag
    have hone := h.alone a (hsub a ha) hflag
    rw [Batch.remove_alarms, List.mem_filter] at ha
    rw [Batch.remove_alarms, hone]
    exact List.filter_eq_self.mpr fun x hx => by rw [List.mem_singleton.mp hx]; exact ha.2

/-- An insertion keeps the batches holding their members exactly when it is sound. -/
theorem insertAndBatch_holds_iff {bs : List Batch} {alarm : TimerInfo} (hwf : ∀ b ∈ bs, b.WF)
    (h : ∀ b ∈ bs, b.Holds) (hwindow : alarm.Windowed) :
    (∀ b ∈ insertAndBatch bs alarm, b.Holds) ↔ Insertion.Sound ⟨bs, alarm⟩ := by
  rcases insertAndBatch_perm bs alarm with ⟨hno, hperm⟩ | ⟨batch, rest, rfl, hco, hperm⟩
  · -- a seeded batch always holds its alarm
    refine ⟨fun _ hco => absurd hco hno, fun _ b hb => ?_⟩
    rcases List.mem_cons.mp (hperm.mem_iff.mp hb) with rfl | hb
    · exact Batch.ofSeed_holds hwindow
    · exact h b hb
  · -- the alarm joins the first batch, whichever the search has found
    have hadd := (h batch (by simp)).add_iff (hwf batch (by simp)) hwindow hco.1
    constructor
    · intro hholds _ b hb
      obtain rfl : batch = b := by simpa using hb
      exact hadd.mp (hholds _ (hperm.mem_iff.mpr (by simp)))
    · intro hsound b hb
      rcases List.mem_cons.mp (hperm.mem_iff.mp hb) with rfl | hb
      · exact hadd.mpr (hsound hco batch (by simp))
      · exact h b (List.mem_cons_of_mem _ hb)

theorem removeBatches_holds {id : ℕ} {bs : List Batch} {didRemove : Bool}
    (hwf : ∀ b ∈ bs, b.WF) (h : ∀ b ∈ bs, b.Holds) :
    ∀ b ∈ (removeBatches id bs didRemove).1, b.Holds := by
  rw [removeBatches_fst]
  intro b hb
  obtain ⟨hb, hkept⟩ := List.mem_filter.mp hb
  obtain ⟨c, hc, rfl⟩ := List.mem_map.mp hb
  exact (h c hc).remove (hwf c hc) _ (by simpa using hkept)

/-! ### Runs -/

/-- The batches hold their members if all insertions so far were sound. -/
def HoldsIfSound (bs : List Batch) (ins : List Insertion) : Prop :=
  (∀ b ∈ bs, b.WF) ∧ ((∀ i ∈ ins, i.Sound) → ∀ b ∈ bs, b.Holds)

theorem HoldsIfSound.insert {bs : List Batch} {ins : List Insertion} {alarm : TimerInfo}
    (hwindow : alarm.Windowed) (h : HoldsIfSound bs ins) :
    HoldsIfSound (insertAndBatch bs alarm) (ins ++ [⟨bs, alarm⟩]) := by
  refine ⟨insertAndBatch_wf h.1 alarm, fun hsound => ?_⟩
  refine (insertAndBatch_holds_iff h.1 (h.2 fun i hi => hsound i ?_) hwindow).mpr
    (hsound ⟨bs, alarm⟩ ?_)
  · exact List.mem_append_left _ hi
  · exact List.mem_append_right _ (List.mem_singleton.mpr rfl)

/-- The invariant of all runs: the batches hold their members if all insertions were sound, and an
    alarm that waits for `mutex_` has a window. -/
theorem Reachable.holdsIfSound {s : System} (h : Reachable Always s) :
    HoldsIfSound s.schedule.alarmBatches s.schedule.insertions ∧
      ∀ alarm, s.entryCall = some (.setHandlerLocked alarm) → alarm.Windowed := by
  refine @Reachable.invariant Always (fun t =>
    HoldsIfSound t.schedule.alarmBatches t.schedule.insertions ∧
      ∀ alarm, t.entryCall = some (.setHandlerLocked alarm) → alarm.Windowed) s h ?_ ?_
  · intro bootTime _
    exact ⟨⟨fun _ hb => (List.not_mem_nil hb).elim, fun _ _ hb => (List.not_mem_nil hb).elim⟩,
      fun _ hcall => by cases hcall⟩
  · rintro t a t' ⟨hholds, hcall⟩ _ hcase
    refine ⟨?_, hcase.called hcall fun _ _ _ _ _ _ _ _ => setHandler_windowed⟩
    refine hcase.batches hholds ?_ hcall (fun now x _ => x.next_windowed now)
      (fun _ _ _ _ => TimerInfo.reAdded_windowed) (fun _ _ _ => HoldsIfSound.insert) ?_ ?_
    · exact fun _ _ _ => ⟨fun _ hb => (List.not_mem_nil hb).elim,
        fun _ _ hb => (List.not_mem_nil hb).elim⟩
    · rintro b rest ins ⟨hwf, hih⟩
      exact ⟨fun c hc => hwf c (List.mem_cons_of_mem _ hc),
        fun hall c hc => hih hall c (List.mem_cons_of_mem _ hc)⟩
    · intro timerNumber _ _ _ _ _ _
      exact ⟨removeBatches_wf hholds.1, fun hall => removeBatches_holds hholds.1 (hholds.2 hall)⟩

/-- **Deadlines.** In every reachable state of a run whose insertions were all sound, every batch
    starts within the windows of its members, and a `STANDALONE` alarm shares its batch with no
    other; and the insertion of `StartTimer` keeps it so exactly when it is sound too. -/
theorem batches_hold {s : System} (h : Reachable Always s)
    (hsound : ∀ i ∈ s.schedule.insertions, i.Sound) :
    (∀ b ∈ s.schedule.alarmBatches, b.Holds) ∧
      ∀ alarm, s.entryCall = some (.setHandlerLocked alarm) →
        ((∀ b ∈ (s.setHandlerLocked alarm).schedule.alarmBatches, b.Holds) ↔
          Insertion.Sound ⟨s.schedule.alarmBatches, alarm⟩) := by
  obtain ⟨hholds, hcall⟩ := h.holdsIfSound
  refine ⟨hholds.2 hsound, fun alarm halarm => ?_⟩
  rw [← insertAndBatch_holds_iff hholds.1 (hholds.2 hsound) (hcall alarm halarm),
    ← Schedule.setHandlerLocked_alarmBatches s.schedule alarm false]
  rfl

/-- Two alarms with overlapping windows share a batch that holds both. -/
theorem batches_hold_shared :
    ∃ s : System, (∃ b ∈ s.schedule.alarmBatches, b.alarms.length = 2) ∧
      ∀ b ∈ s.schedule.alarmBatches, b.Holds := by
  obtain ⟨s, hs, hcheck⟩ := exists_reached
    ([.createTimer [1] 3 100000 0 0 (some 0) 0, .createTimer [2] 3 100000 0 0 (some 0) 0] ++
      startTimerCall 1 200000 (fun _ => true) ⟨1000000000, 0⟩ ++
      startTimerCall 2 250000 (fun _ => true) ⟨1000000000, 0⟩)
    (fun s => (s.schedule.insertions.all fun i => i.found.head?.all fun b => b.Fits i.alarm) &&
      s.schedule.alarmBatches.any fun b => b.alarms.length = 2)
    (by decide +kernel)
  simp only [Bool.and_eq_true, List.all_eq_true, List.any_eq_true, decide_eq_true_eq] at hcheck
  refine ⟨s, hcheck.2, (batches_hold hs fun i hi _ b hb => ?_).1⟩
  have hall := hcheck.1 i hi
  rw [Option.mem_def.mp hb] at hall
  simpa using hall

/-- A third alarm that fits the second batch is added to the first, whose exact alarm for 100 s
    then waits until 250 s. -/
theorem deadline_missed :
    ¬ ∀ s : System, Reachable Always s → ∀ b ∈ s.schedule.alarmBatches, b.Holds := by
  intro hclaim
  obtain ⟨s, hs, hcheck⟩ := exists_reached
    ([.createTimer [1] 3 0 0 0 (some 0) 0, .createTimer [2] 3 100000 0 0 (some 0) 0,
        .createTimer [3] 3 100000 0 0 (some 0) 0] ++
      startTimerCall 1 100000 (fun _ => true) ⟨1000000000, 0⟩ ++
      startTimerCall 2 200000 (fun _ => true) ⟨1000000000, 0⟩ ++
      startTimerCall 3 250000 (fun _ => true) ⟨1000000000, 0⟩)
    (fun s => s.schedule.alarmBatches.any fun b => b.alarms.any fun a =>
      a.maxWhenElapsed < b.start)
    (by decide +kernel)
  simp only [List.any_eq_true, decide_eq_true_eq] at hcheck
  obtain ⟨b, hb, a, ha, hlate⟩ := hcheck
  have hle := (hclaim s hs b hb).deadline a ha
  omega

end TimeService
