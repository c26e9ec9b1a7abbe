import TimeService.Timer.Batch
import TimeService.Timer.Handler

namespace TimeService

/-!
# The schedule: the state under `mutex_`

The part of `TimerManager` that `mutex_` guards, `alarmBatches_` and the kernel timers behind
`handler_`, and the private member functions that work on it: insertion with coalescing,
removal, rebatching and the choice of the next kernel alarm.  The trigger pass is in
`Trigger.lean`.

`Schedule.insertions` is a history variable: no operation reads it, and
`insertAndBatchTimerLocked` appends to it the list of batches it found and the alarm it was
given.

For proofs, `insertAndBatch_cases` says once what an insertion does to the list of batches;
`pending` is the abstraction of a list of batches, the alarms it holds, and every operation has
its meaning there (`insertAndBatch_pending`, `removeBatches_pending`,
`reBatchAllTimersLocked_pending`).
-/

/-- A call of `InsertAndBatchTimerLocked`: the batches it found and the alarm it was given. -/
structure Insertion where
  found : List Batch
  alarm : TimerInfo

/-- The state under `mutex_`. -/
structure Schedule where
  alarmBatches : List Batch
  handler : TimerHandler
  insertions : List Insertion

/-! ### Kernel alarms -/

/-- `TimerManager::FindFirstWakeupBatchLocked`. -/
def findFirstWakeupBatchLocked (alarmBatches : List Batch) : Option Batch :=
  alarmBatches.find? Batch.hasWakeups

/-- `TimerManager::SetLocked`: the status of `Set` is dropped. -/
def setLocked (handler : TimerHandler) (type : TimerType) (when : ℤ) : TimerHandler :=
  (handler.set type.value.toNat when).2

/-- The timers after `TimerManager::RescheduleKernelTimerLocked`.  The source compares batches by
    pointer: the first batch is the first wakeup batch exactly when it has wakeups itself. -/
def rescheduleHandler (alarmBatches : List Batch) (handler : TimerHandler) : TimerHandler :=
  match alarmBatches with
  | [] => handler
  | firstBatch :: _ =>
    let handler :=
      match findFirstWakeupBatchLocked alarmBatches with
      | some firstWakeup => setLocked handler .elapsedRealtimeWakeup firstWakeup.start
      | none => handler
    if firstBatch.hasWakeups then handler
    else setLocked handler .elapsedRealtime firstBatch.start

/-- `TimerManager::RescheduleKernelTimerLocked`. -/
def Schedule.rescheduleKernelTimerLocked (s : Schedule) : Schedule :=
  { s with handler := rescheduleHandler s.alarmBatches s.handler }

/-! ### Insertion -/

/-- `AddBatchLocked`. -/
def addBatchLocked (list : List Batch) (newBatch : Batch) : List Batch :=
  UpperBound.insertUpper Batch.start list newBatch

/-- The test of `AttemptCoalesceLocked` on one batch. -/
def Batch.accepts (item : Batch) (whenElapsed maxWhen : ℤ) : Bool :=
  item.flags &&& standalone = 0#32 ∧ item.canHold whenElapsed maxWhen

/-- The loop of `AttemptCoalesceLocked`.  The source never increments `i`. -/
def attemptCoalesceLoop (whenElapsed maxWhen i : ℤ) : List Batch → ℤ
  | [] => -1
  | item :: rest =>
    if item.accepts whenElapsed maxWhen then i
    else attemptCoalesceLoop whenElapsed maxWhen i rest

/-- `TimerManager::AttemptCoalesceLocked`. -/
def attemptCoalesceLocked (alarmBatches : List Batch) (whenElapsed maxWhen : ℤ) : ℤ :=
  attemptCoalesceLoop whenElapsed maxWhen 0 alarmBatches

/-- `alarmBatches_` after `TimerManager::InsertAndBatchTimerLocked`. -/
def insertAndBatch (alarmBatches : List Batch) (alarm : TimerInfo) : List Batch :=
  let whichBatch :=
    if alarm.flags &&& standalone ≠ 0#32 then -1
    else attemptCoalesceLocked alarmBatches alarm.whenElapsed alarm.maxWhenElapsed
  if whichBatch < 0 then addBatchLocked alarmBatches (Batch.ofSeed alarm)
  else
    match alarmBatches[whichBatch.toNat]? with
    | none => alarmBatches
    | some batch =>
      let added := batch.add alarm
      -- without a new start the batch is changed in place
      if added.2 then addBatchLocked (alarmBatches.eraseIdx whichBatch.toNat) added.1
      else alarmBatches.set whichBatch.toNat added.1

/-- `TimerManager::InsertAndBatchTimerLocked`. -/
def Schedule.insertAndBatchTimerLocked (s : Schedule) (alarm : TimerInfo) : Schedule :=
  { s with
    alarmBatches := insertAndBatch s.alarmBatches alarm
    insertions := s.insertions ++ [⟨s.alarmBatches, alarm⟩] }

/-- `TimerManager::SetHandlerLocked(alarm, rebatching, doValidate)`; `doValidate` is not used. -/
def Schedule.setHandlerLocked (s : Schedule) (alarm : TimerInfo) (rebatching : Bool) : Schedule :=
  let s := s.insertAndBatchTimerLocked alarm
  if rebatching then s else s.rescheduleKernelTimerLocked

/-! ### Rebatching and removal -/

/-- The alarms of a list of batches, batch after batch. -/
def pending (alarmBatches : List Batch) : List TimerInfo := alarmBatches.flatMap Batch.alarms

/-- `TimerManager::ReAddTimerLocked`. -/
def Schedule.reAddTimerLocked (s : Schedule) (nowElapsed : ℤ) (clock : Clock) (timer : TimerInfo) :
    Schedule :=
  match timer.reAdded nowElapsed clock with
  | none => s
  | some timer => s.setHandlerLocked timer true

/-- The loops of `ReBatchAllTimersLocked`; each re-adding reads the clocks anew. -/
def Schedule.reAddAll (nowElapsed : ℤ) : Schedule → (ℕ → Clock) → List TimerInfo → Schedule
  | s, _, [] => s
  | s, clocks, timer :: rest =>
    (s.reAddTimerLocked nowElapsed (clocks 0) timer).reAddAll nowElapsed
      (fun i => clocks (i + 1)) rest

/-- `TimerManager::ReBatchAllTimersLocked`. -/
def Schedule.reBatchAllTimersLocked (s : Schedule) (nowElapsed : ℤ) (clocks : ℕ → Clock) :
    Schedule :=
  (({ s with alarmBatches := [] } : Schedule).reAddAll nowElapsed clocks
    (pending s.alarmBatches)).rescheduleKernelTimerLocked

/-- The loop of `RemoveLocked` over the batches: what is left of them, and `didRemove` after the
    loop.  Each round overwrites `didRemove`. -/
def removeBatches (id : ℕ) : List Batch → Bool → List Batch × Bool
  | [], didRemove => ([], didRemove)
  | batch :: rest, _ =>
    let removed := batch.remove fun timer => timer.id = id
    let after := removeBatches id rest removed.2
    if removed.1.alarms.length = 0 then after else (removed.1 :: after.1, after.2)

/-- `TimerManager::RemoveLocked`. -/
def Schedule.removeLocked (s : Schedule) (id : ℕ) (nowElapsed : ℤ) (clocks : ℕ → Clock) :
    Schedule :=
  let removed := removeBatches id s.alarmBatches false
  let s := { s with alarmBatches := removed.1 }
  if removed.2 then s.reBatchAllTimersLocked nowElapsed clocks else s

/-! ### What an insertion does -/

/-- The coalescing search finds a batch for `alarm`: it is not `STANDALONE` and some batch passes
    the test. -/
def Coalesces (alarmBatches : List Batch) (alarm : TimerInfo) : Prop :=
  alarm.flags &&& standalone = 0#32 ∧
    ∃ b ∈ alarmBatches, b.accepts alarm.whenElapsed alarm.maxWhenElapsed = true

/-- Whatever batch passes the test, the search answers the index it was started with. -/
theorem attemptCoalesceLoop_eq (whenElapsed maxWhen i : ℤ) (bs : List Batch) :
    attemptCoalesceLoop whenElapsed maxWhen i bs
      = if bs.any fun b => b.accepts whenElapsed maxWhen then i else -1 := by
  induction bs with
  | nil => rfl
  | cons b rest ih =>
    rw [attemptCoalesceLoop, ih, List.any_cons]
    cases b.accepts whenElapsed maxWhen <;> simp

/-- **Insertion, by cases.** Either the alarm seeds a batch of its own, or the search found some
    batch and the alarm goes into the first batch of the list. -/
theorem insertAndBatch_cases (bs : List Batch) (alarm : TimerInfo) :
    (¬ Coalesces bs alarm ∧
      insertAndBatch bs alarm = addBatchLocked bs (Batch.ofSeed alarm)) ∨
    ∃ batch rest, bs = batch :: rest ∧ Coalesces bs alarm ∧
      insertAndBatch bs alarm =
        if (batch.add alarm).2 then addBatchLocked rest (batch.add alarm).1
        else (batch.add alarm).1 :: rest := by
  unfold insertAndBatch attemptCoalesceLocked
  rw [attemptCoalesceLoop_eq]
  by_cases hflag : alarm.flags &&& standalone = 0#32
  · by_cases hany : ∃ b ∈ bs, b.accepts alarm.whenElapsed alarm.maxWhenElapsed = true
    · -- some batch passes, and the answer is 0 whichever it is
      right
      have ⟨b, hb, _⟩ := hany
      obtain ⟨batch, rest, rfl⟩ := List.exists_cons_of_ne_nil (List.ne_nil_of_mem hb)
      refine ⟨batch, rest, rfl, ⟨hflag, hany⟩, ?_⟩
      have hsearch : ((batch :: rest).any fun b =>
          b.accepts alarm.whenElapsed alarm.maxWhenElapsed) = true := List.any_eq_true.mpr hany
      simp [hflag, hsearch]
    · left
      have hsearch : (bs.any fun b =>
          b.accepts alarm.whenElapsed alarm.maxWhenElapsed) = false := by
        rw [List.any_eq_false]
        exact fun b hb hacc => hany ⟨b, hb, hacc⟩
      refine ⟨fun h => hany h.2, ?_⟩
      simp [hflag, hsearch]
  · left
    exact ⟨fun h => hflag h.1, by simp [hflag]⟩

/-- The batches after an insertion, up to their order. -/
theorem insertAndBatch_perm (bs : List Batch) (alarm : TimerInfo) :
    (¬ Coalesces bs alarm ∧ (insertAndBatch bs alarm).Perm (Batch.ofSeed alarm :: bs)) ∨
    ∃ batch rest, bs = batch :: rest ∧ Coalesces bs alarm ∧
      (insertAndBatch bs alarm).Perm ((batch.add alarm).1 :: rest) := by
  rcases insertAndBatch_cases bs alarm with ⟨hno, heq⟩ | ⟨batch, rest, hbs, hco, heq⟩
  · left
    exact ⟨hno, heq ▸ UpperBound.insertUpper_perm _ _ _⟩
  · right
    refine ⟨batch, rest, hbs, hco, ?_⟩
    rw [heq]
    split
    · exact UpperBound.insertUpper_perm _ _ _
    · exact List.Perm.refl _

/-- A property of single batches survives an insertion when seeding and adding keep it. -/
theorem insertAndBatch_forall {P : Batch → Prop} {bs : List Batch} {alarm : TimerInfo}
    (h : ∀ b ∈ bs, P b) (hseed : P (Batch.ofSeed alarm))
    (hadd : ∀ b ∈ bs, P b → P (b.add alarm).1) : ∀ b ∈ insertAndBatch bs alarm, P b := by
  intro b hb
  rcases insertAndBatch_perm bs alarm with ⟨_, hperm⟩ | ⟨batch, rest, rfl, _, hperm⟩
  · rcases List.mem_cons.mp (hperm.mem_iff.mp hb) with rfl | hb
    · exact hseed
    · exact h b hb
  · rcases List.mem_cons.mp (hperm.mem_iff.mp hb) with rfl | hb
    · exact hadd batch (by simp) (h batch (by simp))
    · exact h b (by simp [hb])

/-- A later alarm joins no batch that is due afterwards: its batch starts with or after it. -/
theorem insertAndBatch_due {P : TimerInfo → Prop} {bs : List Batch} {alarm : TimerInfo}
    {nowElapsed : ℤ} (h : ∀ b ∈ bs, b.start ≤ nowElapsed → ∀ x ∈ b.alarms, P x)
    (hlater : nowElapsed < alarm.whenElapsed) :
    ∀ b ∈ insertAndBatch bs alarm, b.start ≤ nowElapsed → ∀ x ∈ b.alarms, P x := by
  refine @insertAndBatch_forall (fun b => b.start ≤ nowElapsed → ∀ x ∈ b.alarms, P x) bs alarm h
    (fun hdue => ?_) (fun b _ _ hdue => ?_)
  · rw [Batch.ofSeed_start] at hdue
    omega
  · rw [Batch.add_start] at hdue
    omega

theorem insertAndBatch_wf {bs : List Batch} (h : ∀ b ∈ bs, b.WF) (alarm : TimerInfo) :
    ∀ b ∈ insertAndBatch bs alarm, b.WF :=
  insertAndBatch_forall h (Batch.ofSeed_wf alarm) fun _ _ hb => Batch.add_wf hb alarm

/-- The list of batches is sorted by start. -/
def SortedByStart (alarmBatches : List Batch) : Prop :=
  alarmBatches.Pairwise fun b c => b.start ≤ c.start

theorem insertAndBatch_sorted {bs : List Batch} (h : SortedByStart bs) (alarm : TimerInfo) :
    SortedByStart (insertAndBatch bs alarm) := by
  rcases insertAndBatch_cases bs alarm with ⟨_, heq⟩ | ⟨batch, rest, rfl, _, heq⟩
  · rw [heq]
    exact UpperBound.insertUpper_sorted _ _ _ h
  · obtain ⟨hle, hrest⟩ := List.pairwise_cons.mp h
    rw [heq]
    split
    · exact UpperBound.insertUpper_sorted _ _ _ hrest
    · rename_i hold
      refine List.pairwise_cons.mpr ⟨fun c hc => ?_, hrest⟩
      rw [Batch.add_start_of_not_new (by simpa using hold)]
      exact hle c hc

/-- No due batch comes behind one that is not due. -/
def DueFirst (nowElapsed : ℤ) (alarmBatches : List Batch) : Prop :=
  alarmBatches.Pairwise fun b c => c.start ≤ nowElapsed → b.start ≤ nowElapsed

theorem SortedByStart.dueFirst {bs : List Batch} (h : SortedByStart bs) (nowElapsed : ℤ) :
    DueFirst nowElapsed bs :=
  List.Pairwise.imp (fun hle hdue => hle.trans hdue) h

/-- When the front is not due and the due batches come first, nothing is due. -/
theorem DueFirst.not_due {nowElapsed : ℤ} {bs : List Batch} (h : DueFirst nowElapsed bs)
    (hhead : ∀ b ∈ bs.head?, nowElapsed < b.start) : ∀ b ∈ bs, nowElapsed < b.start := by
  intro b hb
  obtain ⟨first, rest, rfl⟩ := List.exists_cons_of_ne_nil (List.ne_nil_of_mem hb)
  have hfirst := hhead first (by simp)
  rcases List.mem_cons.mp hb with rfl | hb
  · exact hfirst
  · by_contra hdue
    have := (List.pairwise_cons.mp h).1 b hb (by omega)
    omega

/-! ### Pending alarms -/

@[simp] theorem pending_nil : pending [] = [] := rfl

@[simp] theorem pending_cons (b : Batch) (bs : List Batch) :
    pending (b :: bs) = b.alarms ++ pending bs := rfl

theorem pending_append (bs cs : List Batch) : pending (bs ++ cs) = pending bs ++ pending cs :=
  List.flatMap_append

theorem pending_perm {bs cs : List Batch} (h : bs.Perm cs) : (pending bs).Perm (pending cs) :=
  h.flatMap_right _

/-- An insertion adds exactly its alarm to the pending ones. -/
theorem insertAndBatch_pending (bs : List Batch) (alarm : TimerInfo) :
    (pending (insertAndBatch bs alarm)).Perm (alarm :: pending bs) := by
  rcases insertAndBatch_perm bs alarm with ⟨_, hperm⟩ | ⟨batch, rest, rfl, _, hperm⟩
  · exact pending_perm hperm
  · apply (pending_perm hperm).trans
    exact (batch.add_alarms_perm alarm).append_right _

theorem mem_pending_insertAndBatch {bs : List Batch} {alarm a : TimerInfo} :
    a ∈ pending (insertAndBatch bs alarm) ↔ a = alarm ∨ a ∈ pending bs := by
  rw [(insertAndBatch_pending bs alarm).mem_iff, List.mem_cons]

@[simp] theorem Schedule.setHandlerLocked_alarmBatches (s : Schedule) (alarm : TimerInfo)
    (rebatching : Bool) :
    (s.setHandlerLocked alarm rebatching).alarmBatches = insertAndBatch s.alarmBatches alarm := by
  unfold Schedule.setHandlerLocked
  split <;> rfl

@[simp] theorem Schedule.setHandlerLocked_insertions (s : Schedule) (alarm : TimerInfo)
    (rebatching : Bool) :
    (s.setHandlerLocked alarm rebatching).insertions
      = s.insertions ++ [⟨s.alarmBatches, alarm⟩] := by
  unfold Schedule.setHandlerLocked
  split <;> rfl

@[simp] theorem Schedule.rescheduleKernelTimerLocked_alarmBatches (s : Schedule) :
    s.rescheduleKernelTimerLocked.alarmBatches = s.alarmBatches := rfl

/-! ### What rebatching does -/

/-- The alarms that the loops of `ReBatchAllTimersLocked` put back. -/
def reAddedAll (nowElapsed : ℤ) : (ℕ → Clock) → List TimerInfo → List TimerInfo
  | _, [] => []
  | clocks, timer :: rest =>
    (timer.reAdded nowElapsed (clocks 0)).toList
      ++ reAddedAll nowElapsed (fun i => clocks (i + 1)) rest

/-- An alarm that is put back comes from one that was pending. -/
theorem exists_of_mem_reAddedAll {nowElapsed : ℤ} {clocks : ℕ → Clock} {timers : List TimerInfo}
    {a : TimerInfo} (ha : a ∈ reAddedAll nowElapsed clocks timers) :
    ∃ timer ∈ timers, ∃ clock, timer.reAdded nowElapsed clock = some a := by
  induction timers generalizing clocks with
  | nil => cases ha
  | cons timer rest ih =>
    rcases List.mem_append.mp ha with ha | ha
    · exact ⟨timer, by simp, clocks 0, by simpa [Option.mem_toList] using ha⟩
    · obtain ⟨t, ht, hread⟩ := ih ha
      exact ⟨t, by simp [ht], hread⟩

/-- **Rebatching rule.** What every re-adding insertion keeps, the whole loop keeps. -/
theorem Schedule.reAddAll_invariant {Inv : Schedule → Prop} {nowElapsed : ℤ}
    {timers : List TimerInfo} (clocks : ℕ → Clock)
    (hstep : ∀ s, ∀ a ∈ reAddedAll nowElapsed clocks timers, Inv s →
      Inv (s.setHandlerLocked a true))
    (s : Schedule) (h : Inv s) : Inv (s.reAddAll nowElapsed clocks timers) := by
  induction timers generalizing s clocks with
  | nil => exact h
  | cons timer rest ih =>
    rw [Schedule.reAddAll]
    apply ih _ fun s a ha => hstep s a (List.mem_append_right _ ha)
    unfold Schedule.reAddTimerLocked
    cases hread : timer.reAdded nowElapsed (clocks 0) with
    | none =>
      -- the early return leaves the schedule alone
      exact h
    | some a => exact hstep s a (by simp [reAddedAll, hread]) h

/-- The loops insert the alarms they put back one after the other. -/
theorem Schedule.reAddAll_alarmBatches (nowElapsed : ℤ) (clocks : ℕ → Clock)
    (timers : List TimerInfo) (s : Schedule) :
    (s.reAddAll nowElapsed clocks timers).alarmBatches
      = (reAddedAll nowElapsed clocks timers).foldl insertAndBatch s.alarmBatches := by
  induction timers generalizing s clocks with
  | nil => rfl
  | cons timer rest ih =>
    rw [Schedule.reAddAll, ih, reAddedAll, List.foldl_append]
    unfold Schedule.reAddTimerLocked
    cases timer.reAdded nowElapsed (clocks 0) <;> simp

theorem foldl_insertAndBatch_pending (alarms : List TimerInfo) (bs : List Batch) :
    (pending (alarms.foldl insertAndBatch bs)).Perm (alarms ++ pending bs) := by
  induction alarms generalizing bs with
  | nil => exact List.Perm.refl _
  | cons a as ih =>
    apply (ih (insertAndBatch bs a)).trans
    exact ((insertAndBatch_pending bs a).append_left as).trans List.perm_middle

/-- **Rebatching.** The pending alarms after it are those it has put back. -/
theorem Schedule.reBatchAllTimersLocked_pending (s : Schedule) (nowElapsed : ℤ)
    (clocks : ℕ → Clock) :
    (pending (s.reBatchAllTimersLocked nowElapsed clocks).alarmBatches).Perm
      (reAddedAll nowElapsed clocks (pending s.alarmBatches)) := by
  unfold Schedule.reBatchAllTimersLocked
  rw [Schedule.rescheduleKernelTimerLocked_alarmBatches, Schedule.reAddAll_alarmBatches]
  simpa using foldl_insertAndBatch_pending
    (reAddedAll nowElapsed clocks (pending s.alarmBatches)) []

/-- Rebatching starts from an empty list, so what insertions keep of the batches and of the history
    holds of its result. -/
theorem Schedule.reBatchAllTimersLocked_invariant {Inv : List Batch → List Insertion → Prop}
    {nowElapsed : ℤ} {clocks : ℕ → Clock} {s : Schedule} (hnil : Inv [] s.insertions)
    (hstep : ∀ bs ins, ∀ a ∈ reAddedAll nowElapsed clocks (pending s.alarmBatches), Inv bs ins →
      Inv (insertAndBatch bs a) (ins ++ [⟨bs, a⟩])) :
    Inv (s.reBatchAllTimersLocked nowElapsed clocks).alarmBatches
      (s.reBatchAllTimersLocked nowElapsed clocks).insertions := by
  refine @Schedule.reAddAll_invariant (fun t => Inv t.alarmBatches t.insertions) nowElapsed _
    clocks ?_ _ hnil
  intro t a ha ht
  rw [Schedule.setHandlerLocked_alarmBatches, Schedule.setHandlerLocked_insertions]
  exact hstep _ _ a ha ht

/-- What re-adding keeps, all alarms have after a rebatch. -/
theorem Schedule.reBatchAllTimersLocked_forall {P : TimerInfo → Prop} {s : Schedule}
    {nowElapsed : ℤ} {clocks : ℕ → Clock} (h : ∀ x ∈ pending s.alarmBatches, P x)
    (hreAdded : ∀ nowElapsed clock x y, P x → x.reAdded nowElapsed clock = some y → P y) :
    ∀ x ∈ pending (s.reBatchAllTimersLocked nowElapsed clocks).alarmBatches, P x := by
  intro x hx
  rw [(s.reBatchAllTimersLocked_pending nowElapsed clocks).mem_iff] at hx
  obtain ⟨y, hy, clock, hread⟩ := exists_of_mem_reAddedAll hx
  exact hreAdded nowElapsed clock y x (h y hy) hread

/-! ### What removal does -/

/-- The batches that a removal leaves: each batch without the alarms of `id`, the empty ones
    dropped. -/
theorem removeBatches_fst (id : ℕ) (bs : List Batch) (didRemove : Bool) :
    (removeBatches id bs didRemove).1
      = (bs.map fun b => (b.remove fun timer => timer.id = id).1).filter
          fun b => b.alarms.length ≠ 0 := by
  induction bs generalizing didRemove with
  | nil => rfl
  | cons b rest ih =>
    rw [removeBatches, List.map_cons, List.filter_cons]
    split
    · rename_i hempty
      simp [hempty, ih]
    · rename_i hkept
      simp [hkept, ih]

/-- `didRemove` after the loop is that of the last batch alone. -/
theorem removeBatches_snd (id : ℕ) (bs : List Batch) (didRemove : Bool) :
    (removeBatches id bs didRemove).2
      = match bs.getLast? with
        | none => didRemove
        | some b => b.alarms.any fun timer => timer.id = id := by
  induction bs generalizing didRemove with
  | nil => rfl
  | cons b rest ih =>
    -- a round forgets the answer of the one before it
    have hsnd : (removeBatches id (b :: rest) didRemove).2
        = (removeBatches id rest (b.remove fun timer => timer.id = id).2).2 := by
      rw [removeBatches]
      split <;> rfl
    rw [hsnd, ih, Batch.remove_snd]
    cases rest with
    | nil => rfl
    | cons c rest => rw [List.getLast?_cons_cons]; rfl

/-- The last batch of the list has an alarm of `id`. -/
def LastHolds (id : ℕ) (bs : List Batch) : Prop :=
  ∃ b ∈ bs.getLast?, ∃ a ∈ b.alarms, a.id = id

/-- A removal rebatches exactly when the last batch has an alarm of its id. -/
theorem lastHolds_iff (id : ℕ) (bs : List Batch) :
    LastHolds id bs ↔ (removeBatches id bs false).2 = true := by
  rw [removeBatches_snd]
  unfold LastHolds
  cases bs.getLast? <;> simp

theorem pending_filter_nonempty (bs : List Batch) :
    pending (bs.filter fun b => b.alarms.length ≠ 0) = pending bs := by
  induction bs with
  | nil => rfl
  | cons b rest ih =>
    rw [List.filter_cons]
    split
    · rw [pending_cons, pending_cons, ih]
    · rename_i hempty
      have hnil : b.alarms = [] := by simpa using hempty
      rw [ih, pending_cons, hnil, List.nil_append]

/-- A removal takes exactly the alarms of its id out of the pending ones. -/
theorem removeBatches_pending (id : ℕ) (bs : List Batch) (didRemove : Bool) :
    pending (removeBatches id bs didRemove).1
      = (pending bs).filter fun timer => timer.id ≠ id := by
  rw [removeBatches_fst, pending_filter_nonempty]
  induction bs with
  | nil => rfl
  | cons b rest ih =>
    rw [List.map_cons, pending_cons, pending_cons, ih, Batch.remove_alarms, List.filter_append]
    simp

theorem removeBatches_wf {id : ℕ} {bs : List Batch} {didRemove : Bool} (h : ∀ b ∈ bs, b.WF) :
    ∀ b ∈ (removeBatches id bs didRemove).1, b.WF := by
  rw [removeBatches_fst]
  intro b hb
  obtain ⟨hb, hkept⟩ := List.mem_filter.mp hb
  obtain ⟨c, hc, rfl⟩ := List.mem_map.mp hb
  exact Batch.remove_wf (h c hc) _ (by simpa using hkept)

/-- **Removal, by cases.** When the last batch held an alarm of `id` everything left is rebatched,
    otherwise the batches are left as the loop made them. -/
theorem Schedule.removeLocked_cases (s : Schedule) (id : ℕ) (nowElapsed : ℤ)
    (clocks : ℕ → Clock) :
    let removed := { s with alarmBatches := (removeBatches id s.alarmBatches false).1 }
    ((removeBatches id s.alarmBatches false).2 = true ∧
      s.removeLocked id nowElapsed clocks = removed.reBatchAllTimersLocked nowElapsed clocks) ∨
    ((removeBatches id s.alarmBatches false).2 = false ∧
      s.removeLocked id nowElapsed clocks = removed) := by
  intro removed
  unfold Schedule.removeLocked
  cases hdid : (removeBatches id s.alarmBatches false).2
  · right; exact ⟨rfl, by simp [hdid, removed]⟩
  · left; exact ⟨rfl, by simp [hdid, removed]⟩

/-- What re-adding keeps, the remaining alarms have after a removal. -/
theorem Schedule.removeLocked_forall {P : TimerInfo → Prop} {s : Schedule} {id : ℕ}
    {nowElapsed : ℤ} {clocks : ℕ → Clock}
    (h : ∀ x ∈ pending s.alarmBatches, x.id ≠ id → P x)
    (hreAdded : ∀ nowElapsed clock x y, P x → x.reAdded nowElapsed clock = some y → P y) :
    ∀ x ∈ pending (s.removeLocked id nowElapsed clocks).alarmBatches, P x := by
  have hkept : ∀ x ∈ pending (removeBatches id s.alarmBatches false).1, P x := by
    intro x hx
    rw [removeBatches_pending, List.mem_filter] at hx
    exact h x hx.1 (by simpa using hx.2)
  rcases s.removeLocked_cases id nowElapsed clocks with ⟨_, heq⟩ | ⟨_, heq⟩
  · rw [heq]
    exact Schedule.reBatchAllTimersLocked_forall hkept hreAdded
  · rw [heq]
    exact hkept

end TimeService
