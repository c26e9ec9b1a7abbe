import TimeService.Timer.Trigger
import TimeService.Lib.While
import Mathlib.Data.List.Perm.Basic
import Mathlib.Data.List.Sort

namespace TimeService

/-!
# The trigger pass as a whole

`TimerManager::TriggerTimersLocked` from its call to its return, on any sorted list of batches:
the `while` loop ends (`triggerLoop_ends`), nothing due is left, and alarms are conserved.

Lists keep alarms apart as objects: two places of a list are two alarms, whether or not their
fields agree, and `List.Perm` matches places.  `Conserved` splits the alarms of a pass in this
way.
-/

/-! ### The loop ends -/

/-- One round of the `while` loop of `TriggerTimersLocked`; `none` when the loop stops, because
    the list is empty or its first batch is not due. -/
def triggerRound (nowElapsed : ℤ) (p : TriggerPass) : Option TriggerPass :=
  match p.schedule.alarmBatches with
  | [] => none
  | batch :: rest =>
    if batch.start > nowElapsed then none
    else some (batch.alarms.foldl (triggerAlarm nowElapsed) (p.popBatch rest))

theorem triggerLoop_eq_runFor (nowElapsed : ℤ) (fuel : ℕ) (p : TriggerPass) :
    triggerLoop nowElapsed fuel p = While.runFor (triggerRound nowElapsed) fuel p := by
  induction fuel generalizing p with
  | zero => rfl
  | succ fuel ih =>
    rcases hbs : p.schedule.alarmBatches with _ | ⟨batch, rest⟩
    · have hround : triggerRound nowElapsed p = none := by simp only [triggerRound, hbs]
      simp only [triggerLoop, While.runFor, hbs, hround]
    · by_cases hdue : batch.start > nowElapsed
      · have hround : triggerRound nowElapsed p = none := by
          simp only [triggerRound, hbs, if_pos hdue]
        simp only [triggerLoop, While.runFor, hbs, hround, if_pos hdue]
      · have hround : triggerRound nowElapsed p
            = some (batch.alarms.foldl (triggerAlarm nowElapsed) (p.popBatch rest)) := by
          simp only [triggerRound, hbs, if_neg hdue]
        simp only [triggerLoop, While.runFor, hbs, hround, if_neg hdue]
        exact ih _

/-- Every round lowers the work that is overdue. -/
theorem overdueWork_triggerRound (nowElapsed : ℤ) (p q : TriggerPass)
    (h : triggerRound nowElapsed p = some q) :
    overdueWork nowElapsed q.schedule.alarmBatches
      < overdueWork nowElapsed p.schedule.alarmBatches := by
  unfold triggerRound at h
  split at h
  · cases h
  · rename_i batch rest hbs
    split at h
    · cases h
    · rename_i hdue
      cases h
      -- the popped batch pays for the alarms it may have re-armed in the past
      have hfold := overdueWork_foldl_triggerAlarm nowElapsed batch.alarms (p.popBatch rest)
      rw [TriggerPass.popBatch_alarmBatches] at hfold
      rw [hbs, overdueWork_cons, if_pos (by omega)]
      omega

/-- **Termination.** For every list of batches and every `nowElapsed` the loop ends, with the
    result of `triggerTimersLocked`. -/
theorem Schedule.triggerTimersLocked_ends (s : Schedule) (nowElapsed : ℤ) :
    While.Ends (triggerRound nowElapsed) ⟨s, [], false⟩ (s.triggerTimersLocked nowElapsed) := by
  unfold Schedule.triggerTimersLocked
  rw [triggerLoop_eq_runFor]
  apply While.ends_runFor (overdueWork_triggerRound nowElapsed)
  exact overdueWork_le_triggerFuel nowElapsed s.alarmBatches

/-- The loop ends in no other way: what is known of `triggerTimersLocked` is known of the loop. -/
theorem Schedule.eq_triggerTimersLocked {s : Schedule} {nowElapsed : ℤ} {pass : TriggerPass}
    (h : While.Ends (triggerRound nowElapsed) ⟨s, [], false⟩ pass) :
    pass = s.triggerTimersLocked nowElapsed :=
  h.unique (s.triggerTimersLocked_ends nowElapsed)

/-! ### Where the alarms go -/

/-- Two ways to split one collection have a common refinement. -/
private theorem perm_refine {α : Type*} {as bs cs ds : List α}
    (h : (as ++ bs).Perm (cs ++ ds)) :
    ∃ acs ads bcs bds : List α, as.Perm (acs ++ ads) ∧ bs.Perm (bcs ++ bds) ∧
      cs.Perm (acs ++ bcs) ∧ ds.Perm (ads ++ bds) := by
  induction as generalizing cs ds with
  | nil => exact ⟨[], [], cs, ds, .refl _, h, .refl _, .refl _⟩
  | cons a as ih =>
    -- the first element is matched on one side or on the other
    have ha : a ∈ cs ++ ds := h.subset (by simp)
    rcases List.mem_append.mp ha with ha | ha
    · obtain ⟨front, back, rfl⟩ := List.append_of_mem ha
      have hrest : (as ++ bs).Perm (front ++ back ++ ds) := by
        apply List.Perm.cons_inv (a := a)
        apply h.trans
        rw [List.append_assoc, List.append_assoc]
        exact List.perm_middle
      obtain ⟨acs, ads, bcs, bds, h₁, h₂, h₃, h₄⟩ := ih hrest
      exact ⟨a :: acs, ads, bcs, bds, h₁.cons a, h₂, List.perm_middle.trans (h₃.cons a), h₄⟩
    · obtain ⟨front, back, rfl⟩ := List.append_of_mem ha
      have hrest : (as ++ bs).Perm (cs ++ (front ++ back)) := by
        apply List.Perm.cons_inv (a := a)
        apply h.trans
        rw [← List.append_assoc, ← List.append_assoc]
        exact List.perm_middle
      obtain ⟨acs, ads, bcs, bds, h₁, h₂, h₃, h₄⟩ := ih hrest
      refine ⟨acs, a :: ads, bcs, bds, ?_, h₂, h₃, List.perm_middle.trans (h₄.cons a)⟩
      exact (h₁.cons a).trans List.perm_middle.symm

/-- A one-shot alarm. -/
def TimerInfo.oneShot (a : TimerInfo) : Bool := a.repeatInterval = 0

/-- What a pass does with alarms.  Of those pending before, the `fired` ones go into the trigger
    list and the `kept` ones stay pending.  Each triggered repeating alarm gives a new one, which is
    triggered by the same pass (`refired`) or pending after it (`rearmed`). -/
structure Conserved (nowElapsed : ℤ) (before triggerList after : List TimerInfo) : Prop where
  split : ∃ fired kept refired rearmed : List TimerInfo,
    before.Perm (fired ++ kept) ∧
    triggerList.Perm ((fired ++ refired).map (TimerInfo.triggered nowElapsed)) ∧
    after.Perm (kept ++ rearmed) ∧
    (((fired ++ refired).filter TimerInfo.repeats).map (TimerInfo.next nowElapsed)).Perm
      (refired ++ rearmed)
  repeating : ∀ id, after.countP (fun x => x.id = id && x.repeats)
    = before.countP fun x => x.id = id && x.repeats
  oneShot : ∀ id, after.countP (fun x => x.id = id && x.oneShot)
      + triggerList.countP (fun x => x.id = id && x.oneShot)
    = before.countP fun x => x.id = id && x.oneShot

/-- A count that sees only the id and the interval of an alarm is that of the alarm as the pass
    leaves it. -/
private theorem countP_triggered {p : TimerInfo → Bool} {nowElapsed : ℤ}
    (hp : ∀ x : TimerInfo, p (x.triggered nowElapsed) = p x) (l : List TimerInfo) :
    (l.map (TimerInfo.triggered nowElapsed)).countP p = l.countP p := by
  rw [List.countP_map]
  exact List.countP_congr fun x _ => by rw [Function.comp_apply, hp]

/-- The new alarms of a pass, counted by what re-arming keeps. -/
private theorem countP_next {p : TimerInfo → Bool} {nowElapsed : ℤ}
    (hp : ∀ x : TimerInfo, p (x.next nowElapsed) = p x) (l : List TimerInfo) :
    ((l.filter TimerInfo.repeats).map (TimerInfo.next nowElapsed)).countP p
      = l.countP fun x => p x && x.repeats := by
  rw [List.countP_map, List.countP_filter]
  exact List.countP_congr fun x _ => by rw [Function.comp_apply, hp]

/-- **Conservation, with the list sorted.** -/
theorem Schedule.triggerTimersLocked_conserved (s : Schedule) (nowElapsed : ℤ)
    {triggerList : List TimerInfo}
    (hlist : triggerList.Perm (s.triggerTimersLocked nowElapsed).triggerList) :
    Conserved nowElapsed (pending s.alarmBatches) triggerList
      (pending (s.triggerTimersLocked nowElapsed).schedule.alarmBatches) := by
  obtain ⟨popped, hpopped, hperm⟩ := s.triggerTimersLocked_pending nowElapsed
  obtain ⟨fired, kept, refired, rearmed, hbefore, hnew, hall, hafter⟩ := perm_refine hperm
  rw [hpopped] at hlist
  have htriggered : triggerList.Perm ((fired ++ refired).map (TimerInfo.triggered nowElapsed)) :=
    hlist.trans (hall.map _)
  have hrearmed : (((fired ++ refired).filter TimerInfo.repeats).map
      (TimerInfo.next nowElapsed)).Perm (refired ++ rearmed) :=
    ((hall.filter _).map _).symm.trans hnew
  refine ⟨⟨fired, kept, refired, rearmed, hbefore, htriggered, hafter, hrearmed⟩, ?_, ?_⟩
  · intro id
    have hcount := hrearmed.countP_eq fun x => x.id = id && x.repeats
    rw [countP_next (fun x => rfl), hbefore.countP_eq, hafter.countP_eq] at *
    simp only [List.countP_append, Bool.and_assoc, Bool.and_self] at *
    omega
  · intro id
    -- re-arming makes no one-shot alarm
    have hnone : (fired ++ refired).countP
        (fun x => (x.id = id && x.oneShot) && x.repeats) = 0 := by
      rw [List.countP_eq_zero]
      intro x _ hx
      simp [TimerInfo.oneShot, TimerInfo.repeats] at hx
      omega
    have hcount := hrearmed.countP_eq fun x => x.id = id && x.oneShot
    rw [countP_next (fun x => rfl), hnone] at hcount
    rw [hafter.countP_eq, htriggered.countP_eq, hbefore.countP_eq,
      countP_triggered (fun x => rfl)]
    simp only [List.countP_append] at *
    omega

/-- What `std::sort` by `whenElapsed` may make of a list: the order of equal times is open. -/
def StdSorted (list sorted : List TimerInfo) : Prop :=
  sorted.Perm list ∧ sorted.Pairwise fun x y => x.whenElapsed ≤ y.whenElapsed

theorem exists_stdSorted (list : List TimerInfo) : ∃ sorted, StdSorted list sorted := by
  refine ⟨list.insertionSort fun x y => x.whenElapsed ≤ y.whenElapsed,
    List.perm_insertionSort _ _, ?_⟩
  exact List.pairwise_insertionSort _ _

/-- **The trigger pass terminates and drains.** From any sorted list of batches the loop ends; the
    list is then sorted and holds nothing due, and the sorted trigger list and the alarms that are
    pending then account for every alarm. -/
theorem Schedule.trigger_terminates (s : Schedule) (nowElapsed : ℤ)
    (hsorted : SortedByStart s.alarmBatches) :
    ∃ pass, While.Ends (triggerRound nowElapsed) ⟨s, [], false⟩ pass ∧
      SortedByStart pass.schedule.alarmBatches ∧
      (∀ b ∈ pass.schedule.alarmBatches, b.start > nowElapsed) ∧
      (∃ triggerList, StdSorted pass.triggerList triggerList) ∧
      ∀ triggerList, StdSorted pass.triggerList triggerList →
        triggerList.Pairwise (fun x y => x.whenElapsed ≤ y.whenElapsed) ∧
        Conserved nowElapsed (pending s.alarmBatches) triggerList
          (pending pass.schedule.alarmBatches) :=
  ⟨s.triggerTimersLocked nowElapsed, s.triggerTimersLocked_ends nowElapsed,
    s.triggerTimersLocked_sorted hsorted nowElapsed,
    s.triggerTimersLocked_not_due hsorted nowElapsed, exists_stdSorted _,
    fun _ hlist => ⟨hlist.2, s.triggerTimersLocked_conserved nowElapsed hlist.1⟩⟩

/-- An hourly alarm that a rebatch has moved an hour back. -/
def movedAlarm : TimerInfo :=
  { TimerInfo.make 1 TimerType.rtc.value 3600000 0 0 0 3600000 (some 0) 0#32 0 with
    expectedWhenElapsed := 3600000000000 }

theorem trigger_terminates_moved :
    ∃ pass, While.Ends (triggerRound 3600000000000)
        ⟨⟨[Batch.ofSeed movedAlarm], .create, []⟩, [], false⟩ pass ∧
      ∀ b ∈ pass.schedule.alarmBatches, b.start > 3600000000000 := by
  obtain ⟨pass, hends, _, hlater, _⟩ := Schedule.trigger_terminates
    ⟨[Batch.ofSeed movedAlarm], .create, []⟩ 3600000000000 (List.pairwise_singleton _ _)
  exact ⟨pass, hends, hlater⟩

end TimeService
