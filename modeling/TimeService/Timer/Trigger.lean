import TimeService.Timer.Schedule
import Mathlib.Algebra.BigOperators.Group.List.Basic
import Mathlib.Algebra.Order.Ring.Int
import Mathlib.Tactic.Linarith

namespace TimeService

/-!
# The trigger pass

`TimerManager::TriggerTimersLocked`.  The pass drains `alarmBatches_` from the front while the
first batch is due, and the repeating alarms it triggers go back into the same list while it is
drained.

* `triggerLoop_rule`: the invariant rule of the pass, with the alarms of the popped batch that
  are still to be triggered as part of the invariant;
* `triggerTimersLocked_drained`: the loop ends because no batch is due at the front, whatever
  the list was.  The fuel is never what ends it: an alarm whose `expectedWhenElapsed` is its
  `whenElapsed` is re-armed past `nowElapsed`, and a re-armed alarm is such an alarm, so each
  alarm comes back at most once (`overdueWork`);
* `triggerTimersLocked_pending`: what was pending and what was re-armed is, together, what was
  triggered and what is pending now.
-/

/-! ### The pass -/

/-- What the trigger loop works on: the schedule, the list it fills and its result. -/
structure TriggerPass where
  schedule : Schedule
  triggerList : List TimerInfo
  hasWakeup : Bool

/-- The body of the inner loop of `TriggerTimersLocked`. -/
def triggerAlarm (nowElapsed : ℤ) (p : TriggerPass) (alarm : TimerInfo) : TriggerPass :=
  let alarm := alarm.triggered nowElapsed
  { schedule :=
      if alarm.repeatInterval > 0 then
        p.schedule.setHandlerLocked (alarm.rearmed nowElapsed) false
      else p.schedule
    triggerList := p.triggerList ++ [alarm]
    hasWakeup := p.hasWakeup || alarm.wakeup }

/-- The pass with its first batch erased from the list. -/
def TriggerPass.popBatch (p : TriggerPass) (rest : List Batch) : TriggerPass :=
  { p with schedule := { p.schedule with alarmBatches := rest } }

/-- The `while` loop of `TriggerTimersLocked`. -/
def triggerLoop (nowElapsed : ℤ) : ℕ → TriggerPass → TriggerPass
  | 0, p => p
  | fuel + 1, p =>
    match p.schedule.alarmBatches with
    | [] => p
    | batch :: rest =>
      if batch.start > nowElapsed then p
      else
        triggerLoop nowElapsed fuel
          (batch.alarms.foldl (triggerAlarm nowElapsed) (p.popBatch rest))

/-- Rounds enough for the loop, see `triggerTimersLocked_drained`. -/
def triggerFuel (alarmBatches : List Batch) : ℕ :=
  (alarmBatches.map fun b => 1 + b.alarms.length).sum

/-- `TimerManager::TriggerTimersLocked`, called with an empty list, up to its last statement: the
    `std::sort` of the trigger list by `whenElapsed`, which leaves the order of equal times
    open. -/
def Schedule.triggerTimersLocked (s : Schedule) (nowElapsed : ℤ) : TriggerPass :=
  triggerLoop nowElapsed (triggerFuel s.alarmBatches) ⟨s, [], false⟩

/-- **Trigger rule.** `Inv p as` speaks about the pass with the alarms `as` of the popped batch
    still to come.  Popping a due batch and triggering one alarm keep it, so the loop does. -/
theorem triggerLoop_rule {Inv : TriggerPass → List TimerInfo → Prop} {nowElapsed : ℤ}
    (hpop : ∀ p batch rest, Inv p [] → p.schedule.alarmBatches = batch :: rest →
      batch.start ≤ nowElapsed → Inv (p.popBatch rest) batch.alarms)
    (halarm : ∀ p a as, Inv p (a :: as) → Inv (triggerAlarm nowElapsed p a) as)
    (fuel : ℕ) (p : TriggerPass) (h : Inv p []) : Inv (triggerLoop nowElapsed fuel p) [] := by
  induction fuel generalizing p with
  | zero => exact h
  | succ fuel ih =>
    rw [triggerLoop]
    split
    · exact h
    · rename_i batch rest hbs
      split
      · exact h
      · rename_i hdue
        apply ih
        -- the inner loop, by induction on the alarms still to come
        have hfold : ∀ (as : List TimerInfo) (q : TriggerPass), Inv q as →
            Inv (as.foldl (triggerAlarm nowElapsed) q) [] := by
          intro as
          induction as with
          | nil => exact fun q hq => hq
          | cons a as ihas => exact fun q hq => ihas _ (halarm q a as hq)
        exact hfold _ _ (hpop p batch rest h hbs (by omega))

/-! ### When a re-armed alarm is due -/

private theorem lt_tdiv_add_one_mul (a : ℤ) {b : ℤ} (hb : 0 < b) : a < (a.tdiv b + 1) * b := by
  rcases le_total 0 a with ha | ha
  · rw [Int.tdiv_eq_ediv_of_nonneg ha]
    exact Int.lt_ediv_add_one_mul_self a hb
  · -- the quotient truncates toward zero, so it is at least the exact one
    have hneg : a.tdiv b = -((-a) / b) := by
      rw [← Int.tdiv_eq_ediv_of_nonneg (by omega), Int.neg_tdiv, neg_neg]
    have hle : (-a) / b * b ≤ -a := Int.ediv_mul_le _ hb.ne'
    rw [hneg]
    linarith [neg_mul ((-a) / b) b, add_mul (-((-a) / b)) 1 b]

private theorem tdiv_mul_le {a b : ℤ} (ha : 0 ≤ a) (hb : 0 < b) : a.tdiv b * b ≤ a := by
  rw [Int.tdiv_eq_ediv_of_nonneg ha]
  exact Int.ediv_mul_le a hb.ne'

/-- One period more than the whole periods between `t` and `now` leads past `now`, wherever `t`
    lies. -/
theorem now_lt_add_periods (now t : ℤ) {r : ℤ} (hr : 0 < r) :
    now < t + msToNs ((1 + (durationCastMs (now - t)).tdiv r) * r) := by
  have hns := lt_tdiv_add_one_mul (now - t) (show (0 : ℤ) < 1000000 by decide)
  have hms := lt_tdiv_add_one_mul (durationCastMs (now - t)) hr
  unfold msToNs
  unfold durationCastMs at hms ⊢
  rw [add_comm 1]
  omega

/-- For a past `t` it leads at most one period past `now`. -/
theorem add_periods_le (now t : ℤ) {r : ℤ} (hr : 0 < r) (hpast : t ≤ now) :
    t + msToNs ((1 + (durationCastMs (now - t)).tdiv r) * r) ≤ now + msToNs r := by
  have hcast : durationCastMs (now - t) * 1000000 ≤ now - t :=
    tdiv_mul_le (by omega) (by decide)
  have hnonneg : 0 ≤ durationCastMs (now - t) := Int.tdiv_nonneg (by omega) (by decide)
  have hms := tdiv_mul_le hnonneg hr
  unfold msToNs
  rw [add_mul, one_mul]
  omega

/-- A past `t` lies no negative number of periods back. -/
theorem periods_nonneg (now t : ℤ) {r : ℤ} (hr : 0 < r) (hpast : t ≤ now) :
    0 ≤ (durationCastMs (now - t)).tdiv r :=
  Int.tdiv_nonneg (Int.tdiv_nonneg (by omega) (by decide)) hr.le

/-- The alarm the pass schedules for a triggered repeating alarm. -/
def TimerInfo.next (nowElapsed : ℤ) (alarm : TimerInfo) : TimerInfo :=
  (alarm.triggered nowElapsed).rearmed nowElapsed

@[simp] theorem TimerInfo.next_expectedWhenElapsed (now : ℤ) (a : TimerInfo) :
    (a.next now).expectedWhenElapsed = (a.next now).whenElapsed := rfl

theorem TimerInfo.next_whenElapsed (now : ℤ) {a : TimerInfo} (hr : 0 < a.repeatInterval) :
    (a.next now).whenElapsed
      = a.whenElapsed + msToNs ((1 + a.periods now) * a.repeatInterval) := by
  simp [TimerInfo.next, TimerInfo.triggered, TimerInfo.rearmed, TimerInfo.make, hr]

theorem TimerInfo.next_maxWhenElapsed (now : ℤ) (a : TimerInfo) :
    (a.next now).maxWhenElapsed
      = maxTriggerTime now (a.next now).whenElapsed a.repeatInterval := rfl

/-- An alarm that no rebatch has moved is re-armed past `nowElapsed`. -/
theorem TimerInfo.now_lt_next (now : ℤ) {a : TimerInfo} (hr : 0 < a.repeatInterval)
    (haligned : a.expectedWhenElapsed = a.whenElapsed) : now < (a.next now).whenElapsed := by
  rw [TimerInfo.next_whenElapsed now hr, TimerInfo.periods, haligned]
  exact now_lt_add_periods now a.whenElapsed hr

theorem triggerAlarm_schedule (now : ℤ) (p : TriggerPass) (a : TimerInfo) :
    (triggerAlarm now p a).schedule
      = if a.repeatInterval > 0 then p.schedule.setHandlerLocked (a.next now) false
        else p.schedule := rfl

theorem triggerAlarm_alarmBatches (now : ℤ) (p : TriggerPass) (a : TimerInfo) :
    (triggerAlarm now p a).schedule.alarmBatches
      = if a.repeatInterval > 0 then insertAndBatch p.schedule.alarmBatches (a.next now)
        else p.schedule.alarmBatches := by
  rw [triggerAlarm_schedule]
  split
  · rw [Schedule.setHandlerLocked_alarmBatches]
  · rfl

@[simp] theorem triggerAlarm_triggerList (now : ℤ) (p : TriggerPass) (a : TimerInfo) :
    (triggerAlarm now p a).triggerList = p.triggerList ++ [a.triggered now] := rfl

@[simp] theorem TriggerPass.popBatch_alarmBatches (p : TriggerPass) (rest : List Batch) :
    (p.popBatch rest).schedule.alarmBatches = rest := rfl

/-- What popping a batch and inserting an alarm keep of the batches and of the history, the pass
    keeps. -/
theorem Schedule.triggerTimersLocked_invariant {Inv : List Batch → List Insertion → Prop}
    {s : Schedule} {nowElapsed : ℤ} (h : Inv s.alarmBatches s.insertions)
    (hpop : ∀ b rest ins, Inv (b :: rest) ins → Inv rest ins)
    (hinsert : ∀ bs ins (a : TimerInfo), Inv bs ins → 0 < a.repeatInterval →
      Inv (insertAndBatch bs (a.next nowElapsed)) (ins ++ [⟨bs, a.next nowElapsed⟩])) :
    Inv (s.triggerTimersLocked nowElapsed).schedule.alarmBatches
      (s.triggerTimersLocked nowElapsed).schedule.insertions := by
  refine @triggerLoop_rule (fun p _ => Inv p.schedule.alarmBatches p.schedule.insertions)
    nowElapsed ?_ ?_ _ _ h
  · intro p b rest hp hbs _
    rw [hbs] at hp
    exact hpop b rest _ hp
  · intro p a as hp
    rw [triggerAlarm_schedule]
    split
    · rw [Schedule.setHandlerLocked_alarmBatches, Schedule.setHandlerLocked_insertions]
      exact hinsert _ _ a hp ‹_›
    · exact hp

theorem Schedule.triggerTimersLocked_sorted {s : Schedule} (h : SortedByStart s.alarmBatches)
    (nowElapsed : ℤ) :
    SortedByStart (s.triggerTimersLocked nowElapsed).schedule.alarmBatches :=
  @Schedule.triggerTimersLocked_invariant (fun bs _ => SortedByStart bs) s nowElapsed h
    (fun _ _ _ hsorted => (List.pairwise_cons.mp hsorted).2)
    (fun _ _ a hsorted _ => insertAndBatch_sorted hsorted (a.next nowElapsed))

/-! ### The loop ends because nothing is due -/

/-- A repeating alarm that a rebatch has moved away from its `expectedWhenElapsed`. -/
def TimerInfo.misaligned (a : TimerInfo) : Bool :=
  a.repeatInterval > 0 ∧ a.expectedWhenElapsed ≠ a.whenElapsed

/-- The rounds the loop can still take: one for each due batch, and one for each misaligned alarm
    in it, whose re-arming may seed another due batch. -/
def overdueWork (nowElapsed : ℤ) (alarmBatches : List Batch) : ℕ :=
  (alarmBatches.map fun b =>
    if b.start ≤ nowElapsed then 1 + b.alarms.countP TimerInfo.misaligned else 0).sum

theorem overdueWork_perm {now : ℤ} {bs cs : List Batch} (h : bs.Perm cs) :
    overdueWork now bs = overdueWork now cs :=
  (h.map _).sum_eq

theorem overdueWork_cons (now : ℤ) (b : Batch) (bs : List Batch) :
    overdueWork now (b :: bs)
      = (if b.start ≤ now then 1 + b.alarms.countP TimerInfo.misaligned else 0)
        + overdueWork now bs := by
  simp [overdueWork]

theorem overdueWork_le_triggerFuel (now : ℤ) (bs : List Batch) :
    overdueWork now bs ≤ triggerFuel bs := by
  induction bs with
  | nil => exact Nat.le_refl _
  | cons b rest ih =>
    have hcount : b.alarms.countP TimerInfo.misaligned ≤ b.alarms.length := List.countP_le_length
    have hfuel : triggerFuel (b :: rest) = 1 + b.alarms.length + triggerFuel rest := by
      simp [triggerFuel]
    rw [overdueWork_cons, hfuel]
    split <;> omega

/-- Inserting an alarm that is not misaligned adds at most one round, and none when the alarm
    lies past `nowElapsed`: its batch then starts past `nowElapsed`. -/
theorem overdueWork_insertAndBatch (now : ℤ) (bs : List Batch) {a : TimerInfo}
    (ha : a.misaligned = false) :
    overdueWork now (insertAndBatch bs a)
      ≤ overdueWork now bs + if now < a.whenElapsed then 0 else 1 := by
  rcases insertAndBatch_perm bs a with ⟨_, hperm⟩ | ⟨batch, rest, rfl, _, hperm⟩
  · rw [overdueWork_perm hperm, overdueWork_cons]
    have hseed : (Batch.ofSeed a).alarms.countP TimerInfo.misaligned = 0 := by
      simp [ha]
    rw [Batch.ofSeed_start, hseed]
    split <;> split <;> omega
  · -- adding can only move the start of the first batch on
    have hcount : (batch.add a).1.alarms.countP TimerInfo.misaligned
        = batch.alarms.countP TimerInfo.misaligned := by
      rw [(batch.add_alarms_perm a).countP_eq, List.countP_cons, ha]
      simp
    rw [overdueWork_perm hperm, overdueWork_cons, overdueWork_cons, Batch.add_start, hcount]
    split <;> split <;> omega

theorem TimerInfo.next_misaligned (now : ℤ) (a : TimerInfo) :
    (a.next now).misaligned = false := by
  simp [TimerInfo.misaligned]

theorem overdueWork_triggerAlarm (now : ℤ) (p : TriggerPass) (a : TimerInfo) :
    overdueWork now (triggerAlarm now p a).schedule.alarmBatches
      ≤ overdueWork now p.schedule.alarmBatches + if a.misaligned then 1 else 0 := by
  rw [triggerAlarm_alarmBatches]
  split
  · rename_i hr
    have hins := overdueWork_insertAndBatch now p.schedule.alarmBatches
      (TimerInfo.next_misaligned now a)
    by_cases hmis : a.misaligned = true
    · rw [if_pos hmis]
      split at hins <;> omega
    · -- an aligned alarm is re-armed past `now` and costs nothing
      have haligned : a.expectedWhenElapsed = a.whenElapsed := by
        simpa [TimerInfo.misaligned, hr] using hmis
      rw [if_pos (TimerInfo.now_lt_next now hr haligned)] at hins
      rw [if_neg hmis]
      exact hins
  · exact Nat.le_add_right _ _

theorem overdueWork_foldl_triggerAlarm (now : ℤ) (as : List TimerInfo) (p : TriggerPass) :
    overdueWork now (as.foldl (triggerAlarm now) p).schedule.alarmBatches
      ≤ overdueWork now p.schedule.alarmBatches + as.countP TimerInfo.misaligned := by
  induction as generalizing p with
  | nil => simp
  | cons a as ih =>
    have hfirst := overdueWork_triggerAlarm now p a
    have hrest := ih (triggerAlarm now p a)
    rw [List.foldl_cons, List.countP_cons]
    omega

theorem triggerLoop_drained (now : ℤ) (fuel : ℕ) (p : TriggerPass)
    (hfuel : overdueWork now p.schedule.alarmBatches ≤ fuel) :
    ∀ b ∈ (triggerLoop now fuel p).schedule.alarmBatches.head?, now < b.start := by
  induction fuel generalizing p with
  | zero =>
    -- no work is left, so no batch is due
    intro b hb
    rw [triggerLoop] at hb
    obtain ⟨rest, hbs⟩ := List.head?_eq_some_iff.mp hb
    rw [hbs, overdueWork_cons] at hfuel
    split at hfuel <;> omega
  | succ fuel ih =>
    rw [triggerLoop]
    split
    · rename_i hbs
      simp [hbs]
    · rename_i batch rest hbs
      split
      · rename_i hlater
        intro b hb
        obtain rfl : batch = b := by simpa [hbs] using hb
        omega
      · rename_i hdue
        apply ih
        -- the popped batch pays for its round and for the alarms it may have re-armed in the past
        have hfold := overdueWork_foldl_triggerAlarm now batch.alarms (p.popBatch rest)
        rw [hbs, overdueWork_cons, if_pos (by omega)] at hfuel
        rw [TriggerPass.popBatch_alarmBatches] at hfold
        omega

/-- **The pass drains.** For every list of batches and every `nowElapsed` the loop ends, with no
    due batch at the front. -/
theorem Schedule.triggerTimersLocked_drained (s : Schedule) (nowElapsed : ℤ) :
    ∀ b ∈ (s.triggerTimersLocked nowElapsed).schedule.alarmBatches.head?, nowElapsed < b.start :=
  triggerLoop_drained nowElapsed _ _ (overdueWork_le_triggerFuel nowElapsed s.alarmBatches)

/-- On a sorted list nothing due is left anywhere. -/
theorem Schedule.triggerTimersLocked_not_due {s : Schedule} (h : SortedByStart s.alarmBatches)
    (nowElapsed : ℤ) :
    ∀ b ∈ (s.triggerTimersLocked nowElapsed).schedule.alarmBatches, nowElapsed < b.start :=
  ((s.triggerTimersLocked_sorted h nowElapsed).dueFirst nowElapsed).not_due
    (s.triggerTimersLocked_drained nowElapsed)

/-! ### Conservation -/

/-- A repeating alarm. -/
def TimerInfo.repeats (a : TimerInfo) : Bool := a.repeatInterval > 0

/-- **Conservation.** The alarms `popped` are those the pass has triggered.  What was pending and
    what was re-armed is what was triggered and what is pending afterwards, alarm by alarm. -/
theorem Schedule.triggerTimersLocked_pending (s : Schedule) (nowElapsed : ℤ) :
    ∃ popped : List TimerInfo,
      (s.triggerTimersLocked nowElapsed).triggerList
        = popped.map (TimerInfo.triggered nowElapsed) ∧
      (pending s.alarmBatches
          ++ (popped.filter TimerInfo.repeats).map (TimerInfo.next nowElapsed)).Perm
        (popped ++ pending (s.triggerTimersLocked nowElapsed).schedule.alarmBatches) := by
  -- the alarms of the popped batch still to come count with the pending ones
  let Inv : TriggerPass → List TimerInfo → Prop := fun p as => ∃ popped : List TimerInfo,
    p.triggerList = popped.map (TimerInfo.triggered nowElapsed) ∧
    (pending s.alarmBatches
        ++ (popped.filter TimerInfo.repeats).map (TimerInfo.next nowElapsed)).Perm
      (popped ++ (as ++ pending p.schedule.alarmBatches))
  have hinit : Inv ⟨s, [], false⟩ [] := ⟨[], rfl, by simp⟩
  have hpop : ∀ p batch rest, Inv p [] → p.schedule.alarmBatches = batch :: rest →
      batch.start ≤ nowElapsed → Inv (p.popBatch rest) batch.alarms := by
    rintro p batch rest ⟨popped, hlist, hperm⟩ hbs _
    refine ⟨popped, hlist, ?_⟩
    rw [hbs] at hperm
    simpa using hperm
  have halarm : ∀ p a as, Inv p (a :: as) → Inv (triggerAlarm nowElapsed p a) as := by
    rintro p a as ⟨popped, hlist, hperm⟩
    refine ⟨popped ++ [a], by simp [hlist], ?_⟩
    rw [triggerAlarm_alarmBatches]
    by_cases hr : a.repeatInterval > 0
    · have hfilter : (popped ++ [a]).filter TimerInfo.repeats
          = popped.filter TimerInfo.repeats ++ [a] := by
        simp [List.filter_append, TimerInfo.repeats, hr]
      rw [if_pos hr, hfilter, List.map_append, ← List.append_assoc]
      apply (hperm.append_right [a.next nowElapsed]).trans
      -- the re-armed alarm moves from the left summand into the pending ones
      have hins := insertAndBatch_pending p.schedule.alarmBatches (a.next nowElapsed)
      have hmove : (as ++ pending p.schedule.alarmBatches ++ [a.next nowElapsed]).Perm
          (as ++ pending (insertAndBatch p.schedule.alarmBatches (a.next nowElapsed))) := by
        rw [List.append_assoc]
        exact ((List.perm_append_singleton _ _).trans hins.symm).append_left as
      simpa using (hmove.cons a).append_left popped
    · have hfilter : (popped ++ [a]).filter TimerInfo.repeats
          = popped.filter TimerInfo.repeats := by
        simp [List.filter_append, TimerInfo.repeats, hr]
      rw [if_neg hr, hfilter]
      simpa using hperm
  exact triggerLoop_rule hpop halarm (triggerFuel s.alarmBatches) _ hinit

/-- What re-arming keeps, the alarms that the pass pops and those it leaves pending have. -/
theorem Schedule.triggerTimersLocked_forall {P : TimerInfo → Prop} {s : Schedule}
    {nowElapsed : ℤ} (h : ∀ x ∈ pending s.alarmBatches, P x)
    (hnext : ∀ x, P x → P (x.next nowElapsed)) :
    (∀ x ∈ pending (s.triggerTimersLocked nowElapsed).schedule.alarmBatches, P x) ∧
      ∀ y ∈ (s.triggerTimersLocked nowElapsed).triggerList,
        ∃ x, P x ∧ y = x.triggered nowElapsed := by
  let Inv : TriggerPass → List TimerInfo → Prop := fun p as =>
    (∀ x ∈ as ++ pending p.schedule.alarmBatches, P x) ∧
      ∀ y ∈ p.triggerList, ∃ x, P x ∧ y = x.triggered nowElapsed
  have hinit : Inv ⟨s, [], false⟩ [] := ⟨h, by simp⟩
  refine @triggerLoop_rule Inv nowElapsed ?_ ?_ (triggerFuel s.alarmBatches) _ hinit
  · rintro p batch rest ⟨hpending, hlist⟩ hbs _
    rw [hbs] at hpending
    exact ⟨hpending, hlist⟩
  · rintro p a as ⟨hpending, hlist⟩
    have ha : P a := hpending a (by simp)
    have hrest : ∀ x ∈ as ++ pending p.schedule.alarmBatches, P x :=
      fun x hx => hpending x (List.mem_cons_of_mem _ hx)
    constructor
    · rw [triggerAlarm_alarmBatches]
      split
      · intro x hx
        rw [List.mem_append, mem_pending_insertAndBatch] at hx
        rcases hx with hx | rfl | hx
        · exact hrest x (List.mem_append_left _ hx)
        · exact hnext a ha
        · exact hrest x (List.mem_append_right _ hx)
      · exact hrest
    · intro y hy
      rw [triggerAlarm_triggerList] at hy
      rcases List.mem_append.mp hy with hy | hy
      · exact hlist y hy
      · exact ⟨a, ha, List.mem_singleton.mp hy⟩

/-- What re-arming keeps as far as the triggered alarms have `Q`, the alarms that a pass leaves
    pending have when it triggers only such alarms. -/
theorem Schedule.triggerTimersLocked_forall_of_triggered {P Q : TimerInfo → Prop} {s : Schedule}
    {nowElapsed : ℤ} (h : ∀ x ∈ pending s.alarmBatches, P x)
    (hlist : ∀ y ∈ (s.triggerTimersLocked nowElapsed).triggerList, Q y)
    (hnext : ∀ x, P x → 0 < x.repeatInterval → Q (x.triggered nowElapsed) →
      P (x.next nowElapsed)) :
    ∀ x ∈ pending (s.triggerTimersLocked nowElapsed).schedule.alarmBatches, P x := by
  let Inv : TriggerPass → List TimerInfo → Prop := fun p as =>
    (∀ y ∈ p.triggerList, Q y) → ∀ x ∈ as ++ pending p.schedule.alarmBatches, P x
  have hinit : Inv ⟨s, [], false⟩ [] := fun _ => h
  refine @triggerLoop_rule Inv nowElapsed ?_ ?_ (triggerFuel s.alarmBatches) _ hinit hlist
  · intro p batch rest hp hbs _ hsofar
    have hpending := hp hsofar
    rw [hbs] at hpending
    exact hpending
  · intro p a as hp hsofar
    rw [triggerAlarm_triggerList] at hsofar
    have hpending := hp fun y hy => hsofar y (List.mem_append_left _ hy)
    have ha : P a := hpending a (by simp)
    have hrest : ∀ x ∈ as ++ pending p.schedule.alarmBatches, P x :=
      fun x hx => hpending x (List.mem_cons_of_mem _ hx)
    rw [triggerAlarm_alarmBatches]
    split
    · rename_i hrepeats
      intro x hx
      rw [List.mem_append, mem_pending_insertAndBatch] at hx
      rcases hx with hx | rfl | hx
      · exact hrest x (List.mem_append_left _ hx)
      · exact hnext a ha hrepeats (hsofar _ (by simp))
      · exact hrest x (List.mem_append_right _ hx)
    · exact hrest

/-- **Never early, one pass.** From batches that keep their invariant the pass triggers only
    alarms whose time has come. -/
theorem Schedule.triggerTimersLocked_due {s : Schedule} (h : ∀ b ∈ s.alarmBatches, b.WF)
    (nowElapsed : ℤ) :
    ∀ a ∈ (s.triggerTimersLocked nowElapsed).triggerList, a.whenElapsed ≤ nowElapsed := by
  let Inv : TriggerPass → List TimerInfo → Prop := fun p as =>
    (∀ b ∈ p.schedule.alarmBatches, b.WF) ∧ (∀ a ∈ as, a.whenElapsed ≤ nowElapsed) ∧
      ∀ a ∈ p.triggerList, a.whenElapsed ≤ nowElapsed
  have hinit : Inv ⟨s, [], false⟩ [] := ⟨h, by simp, by simp⟩
  refine (@triggerLoop_rule Inv nowElapsed ?_ ?_ (triggerFuel s.alarmBatches) _ hinit).2.2
  · rintro p batch rest ⟨hwf, _, hlist⟩ hbs hdue
    rw [hbs] at hwf
    refine ⟨fun b hb => hwf b (List.mem_cons_of_mem _ hb), fun a ha => ?_, hlist⟩
    exact ((hwf batch (by simp)).whenElapsed_le_start ha).trans hdue
  · rintro p a as ⟨hwf, has, hlist⟩
    refine ⟨?_, fun x hx => has x (List.mem_cons_of_mem _ hx), ?_⟩
    · rw [triggerAlarm_alarmBatches]
      split
      · exact insertAndBatch_wf hwf _
      · exact hwf
    · intro x hx
      rw [triggerAlarm_triggerList] at hx
      rcases List.mem_append.mp hx with hx | hx
      · exact hlist x hx
      · rw [List.mem_singleton.mp hx]
        exact has a (by simp)

end TimeService
