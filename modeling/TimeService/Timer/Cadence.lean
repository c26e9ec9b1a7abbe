import TimeService.Timer.Manager

namespace TimeService

open Transition

/-!
# The cadence of repeating alarms

Which alarms are due is read off the state before a pass: those of the batches that start by
`nowElapsed`, and those whose own window has ended by then.

* `pass_cadence`: when the due batches come first, a pass triggers each due alarm once and re-arms
  the repeating ones on their beat exactly when `expectedWhenElapsed` counts for them as
  `whenElapsed` does, no window has ended unnoticed, and no alarm that is re-armed finds a batch to
  join while a due batch waits.

A re-armed alarm that finds one joins the first batch of the list, which is then the due one: its
start moves past `nowElapsed`, and its alarms are not triggered in this pass.
-/

/-! ### Due alarms -/

/-- An alarm of a batch is due: the batch starts by `nowElapsed`, or its own window has ended. -/
def Batch.isDue (nowElapsed : ℤ) (b : Batch) (a : TimerInfo) : Bool :=
  b.start ≤ nowElapsed || a.maxWhenElapsed ≤ nowElapsed

/-- The due alarms of a list of batches. -/
def dueAlarms (nowElapsed : ℤ) (alarmBatches : List Batch) : List TimerInfo :=
  alarmBatches.flatMap fun b => b.alarms.filter (b.isDue nowElapsed)

/-- The other ones. -/
def laterAlarms (nowElapsed : ℤ) (alarmBatches : List Batch) : List TimerInfo :=
  alarmBatches.flatMap fun b => b.alarms.filter fun a => !b.isDue nowElapsed a

/-- The alarm that comes after `a` lies within one period past `nowElapsed`, a positive number of
    periods after `a`. -/
structure NextBeat (nowElapsed : ℤ) (a next : TimerInfo) : Prop where
  later : nowElapsed < next.whenElapsed
  soon : next.whenElapsed ≤ nowElapsed + msToNs a.repeatInterval
  multiple : ∃ k > 0, next.whenElapsed = a.whenElapsed + k * msToNs a.repeatInterval

/-- A pass keeps the cadence: it triggers the alarms that were due before it, each once, and no
    others; pending afterwards are those that were not due, and one more for each repeating alarm
    that was, on its beat. -/
structure Cadence (s : System) (nowElapsed : ℤ) (triggerList : List TimerInfo) (s' : System) :
    Prop where
  triggered : triggerList.Perm
    ((dueAlarms nowElapsed s.schedule.alarmBatches).map (TimerInfo.triggered nowElapsed))
  pending : (pending s'.schedule.alarmBatches).Perm
    (laterAlarms nowElapsed s.schedule.alarmBatches
      ++ ((dueAlarms nowElapsed s.schedule.alarmBatches).filter TimerInfo.repeats).map
        (TimerInfo.next nowElapsed))
  beat : ∀ a ∈ dueAlarms nowElapsed s.schedule.alarmBatches, 0 < a.repeatInterval →
    NextBeat nowElapsed a (a.next nowElapsed)

/-! ### The condition -/

/-- The pass counts as many whole periods since `expectedWhenElapsed` as there are since
    `whenElapsed`. -/
def TimerInfo.OnBeat (nowElapsed : ℤ) (a : TimerInfo) : Prop :=
  a.periods nowElapsed = (durationCastMs (nowElapsed - a.whenElapsed)).tdiv a.repeatInterval

/-- The batches that the repeating ones of these alarms seed when they are re-armed and join no
    batch. -/
def rearmedBatches (nowElapsed : ℤ) (alarms : List TimerInfo) : List Batch :=
  (alarms.filter TimerInfo.repeats).map fun a => Batch.ofSeed (a.next nowElapsed)

/-- Re-armed one after the other, no alarm finds a batch to join: none of those that wait, none of
    those seeded so far. -/
def JoinsNone (nowElapsed : ℤ) (waiting seeded : List Batch) (alarms : List TimerInfo) : Prop :=
  ∀ before a after, alarms = before ++ a :: after → 0 < a.repeatInterval →
    ¬ Coalesces (waiting ++ (seeded ++ rearmedBatches nowElapsed before)) (a.next nowElapsed)

/-- While a due batch waits, the alarms of the batch in front of it join none. -/
def NoneJoined (nowElapsed : ℤ) (seeded alarmBatches : List Batch) : Prop :=
  ∀ front b waiting rest, alarmBatches = front ++ b :: waiting :: rest →
    waiting.start ≤ nowElapsed →
    JoinsNone nowElapsed (waiting :: rest) (seeded ++ rearmedBatches nowElapsed (pending front))
      b.alarms

/-- The condition on the state before a pass. -/
structure System.OnBeat (s : System) (nowElapsed : ℤ) : Prop where
  /-- The repeating alarms of due batches are on their beat. -/
  beat : ∀ b ∈ s.schedule.alarmBatches, b.start ≤ nowElapsed →
    ∀ a ∈ b.alarms, 0 < a.repeatInterval → a.OnBeat nowElapsed
  /-- No alarm waits past its window in a batch that is not due. -/
  inWindow : ∀ b ∈ s.schedule.alarmBatches, nowElapsed < b.start →
    ∀ a ∈ b.alarms, nowElapsed < a.maxWhenElapsed
  noneJoined : NoneJoined nowElapsed [] s.schedule.alarmBatches

/-- A due alarm on its beat is re-armed on its beat. -/
theorem TimerInfo.OnBeat.next {nowElapsed : ℤ} {a : TimerInfo} (h : a.OnBeat nowElapsed)
    (hr : 0 < a.repeatInterval) (hdue : a.whenElapsed ≤ nowElapsed) :
    NextBeat nowElapsed a (a.next nowElapsed) := by
  have hnext := TimerInfo.next_whenElapsed nowElapsed hr
  rw [h] at hnext
  have hperiods := periods_nonneg nowElapsed a.whenElapsed hr hdue
  refine ⟨?_, ?_, 1 + (durationCastMs (nowElapsed - a.whenElapsed)).tdiv a.repeatInterval,
    by omega, ?_⟩
  · rw [hnext]
    exact now_lt_add_periods nowElapsed a.whenElapsed hr
  · rw [hnext]
    exact add_periods_le nowElapsed a.whenElapsed hr hdue
  · rw [hnext, msToNs, msToNs, mul_assoc]

/-- A due alarm that is re-armed on the beat was on its beat: any other number of periods leads to
    `nowElapsed` or before it, or more than one period past it. -/
theorem NextBeat.onBeat {nowElapsed : ℤ} {a : TimerInfo}
    (h : NextBeat nowElapsed a (a.next nowElapsed)) (hr : 0 < a.repeatInterval)
    (hdue : a.whenElapsed ≤ nowElapsed) : a.OnBeat nowElapsed := by
  have hnext := TimerInfo.next_whenElapsed nowElapsed hr
  have hlater := h.later
  have hsoon := h.soon
  rw [hnext] at hlater hsoon
  have hexact := now_lt_add_periods nowElapsed a.whenElapsed hr
  have hatMost := add_periods_le nowElapsed a.whenElapsed hr hdue
  unfold TimerInfo.OnBeat
  unfold msToNs at hlater hsoon hexact hatMost
  rcases lt_trichotomy (a.periods nowElapsed)
    ((durationCastMs (nowElapsed - a.whenElapsed)).tdiv a.repeatInterval) with hlt | heq | hlt
  · have hmul := mul_le_mul_of_nonneg_right (show 1 + a.periods nowElapsed + 1
      ≤ 1 + (durationCastMs (nowElapsed - a.whenElapsed)).tdiv a.repeatInterval by omega) hr.le
    rw [add_mul, one_mul] at hmul
    omega
  · exact heq
  · have hmul := mul_le_mul_of_nonneg_right (show 1 + (durationCastMs
      (nowElapsed - a.whenElapsed)).tdiv a.repeatInterval + 1 ≤ 1 + a.periods nowElapsed by omega)
      hr.le
    rw [add_mul, one_mul] at hmul
    omega

section
variable {nowElapsed : ℤ} {seeded waiting : List Batch}

@[simp] theorem rearmedBatches_append (as as' : List TimerInfo) :
    rearmedBatches nowElapsed (as ++ as')
      = rearmedBatches nowElapsed as ++ rearmedBatches nowElapsed as' := by
  simp [rearmedBatches]

@[simp] theorem rearmedBatches_nil : rearmedBatches nowElapsed [] = [] := rfl

theorem rearmedBatches_singleton (a : TimerInfo) :
    rearmedBatches nowElapsed [a]
      = if 0 < a.repeatInterval then [Batch.ofSeed (a.next nowElapsed)] else [] := by
  unfold rearmedBatches
  by_cases hr : 0 < a.repeatInterval
  · simp [TimerInfo.repeats, hr]
  · simp [TimerInfo.repeats, hr]

theorem joinsNone_nil : JoinsNone nowElapsed waiting seeded [] := by
  intro before a after hsplit
  simp at hsplit

theorem joinsNone_cons {a : TimerInfo} {as : List TimerInfo} :
    JoinsNone nowElapsed waiting seeded (a :: as) ↔
      (0 < a.repeatInterval → ¬ Coalesces (waiting ++ seeded) (a.next nowElapsed)) ∧
        JoinsNone nowElapsed waiting (seeded ++ rearmedBatches nowElapsed [a]) as := by
  constructor
  · intro h
    refine ⟨fun hr => ?_, fun before x after hsplit hr => ?_⟩
    · have hfirst := h [] a as rfl hr
      rwa [rearmedBatches_nil, List.append_nil] at hfirst
    · have hlater := h (a :: before) x after (by rw [hsplit]; rfl) hr
      rwa [← List.singleton_append, rearmedBatches_append, ← List.append_assoc seeded] at hlater
  · rintro ⟨hfirst, hrest⟩ before x after hsplit hr
    cases before with
    | nil =>
      obtain ⟨rfl, rfl⟩ := List.cons.inj hsplit
      rw [rearmedBatches_nil, List.append_nil]
      exact hfirst hr
    | cons y before =>
      obtain ⟨rfl, rfl⟩ := List.cons.inj hsplit
      have hlater := hrest before x after rfl hr
      rwa [List.append_assoc seeded, ← rearmedBatches_append, List.singleton_append] at hlater

theorem noneJoined_cons {b : Batch} {rest : List Batch} :
    NoneJoined nowElapsed seeded (b :: rest) ↔
      (∀ next ∈ rest.head?, next.start ≤ nowElapsed →
        JoinsNone nowElapsed rest seeded b.alarms) ∧
      NoneJoined nowElapsed (seeded ++ rearmedBatches nowElapsed b.alarms) rest := by
  constructor
  · intro h
    refine ⟨fun next hnext hdue => ?_, fun front c waiting rest' hsplit hdue => ?_⟩
    · obtain ⟨rest', rfl⟩ := List.head?_eq_some_iff.mp hnext
      have hfirst := h [] b next rest' rfl hdue
      rwa [pending_nil, rearmedBatches_nil, List.append_nil] at hfirst
    · have hlater := h (b :: front) c waiting rest' (by rw [hsplit]; rfl) hdue
      rwa [pending_cons, rearmedBatches_append, ← List.append_assoc seeded] at hlater
  · rintro ⟨hfirst, hrest⟩ front c waiting rest' hsplit hdue
    cases front with
    | nil =>
      obtain ⟨rfl, rfl⟩ := List.cons.inj hsplit
      rw [pending_nil, rearmedBatches_nil, List.append_nil]
      exact hfirst waiting rfl hdue
    | cons d front =>
      obtain ⟨rfl, rfl⟩ := List.cons.inj hsplit
      have hlater := hrest front c waiting rest' rfl hdue
      rwa [List.append_assoc seeded, ← rearmedBatches_append, ← pending_cons] at hlater

/-- Where nothing is due, nothing waits. -/
theorem noneJoined_of_later {later : List Batch} (h : ∀ b ∈ later, nowElapsed < b.start) :
    NoneJoined nowElapsed seeded later := by
  intro front b waiting rest hsplit hdue
  have hmem : waiting ∈ later := by
    rw [hsplit]
    simp
  have := h waiting hmem
  omega

end

/-! ### The walk over the due batches -/

/-- How many alarms the due batches hold. -/
def dueCount (nowElapsed : ℤ) (alarmBatches : List Batch) : ℕ :=
  (alarmBatches.map fun b => if b.start ≤ nowElapsed then b.alarms.length else 0).sum

theorem dueCount_cons (nowElapsed : ℤ) (b : Batch) (bs : List Batch) :
    dueCount nowElapsed (b :: bs)
      = (if b.start ≤ nowElapsed then b.alarms.length else 0) + dueCount nowElapsed bs := by
  simp [dueCount]

theorem dueCount_perm {nowElapsed : ℤ} {bs cs : List Batch} (h : bs.Perm cs) :
    dueCount nowElapsed bs = dueCount nowElapsed cs :=
  (h.map _).sum_eq

theorem dueCount_append (nowElapsed : ℤ) (bs cs : List Batch) :
    dueCount nowElapsed (bs ++ cs) = dueCount nowElapsed bs + dueCount nowElapsed cs := by
  simp [dueCount]

theorem dueCount_of_due {nowElapsed : ℤ} {bs : List Batch} (h : ∀ b ∈ bs, b.start ≤ nowElapsed) :
    dueCount nowElapsed bs = (pending bs).length := by
  induction bs with
  | nil => rfl
  | cons b bs ih =>
    rw [dueCount_cons, if_pos (h b (by simp)), ih fun c hc => h c (List.mem_cons_of_mem b hc)]
    simp

theorem dueCount_of_later {nowElapsed : ℤ} {bs : List Batch}
    (h : ∀ b ∈ bs, nowElapsed < b.start) : dueCount nowElapsed bs = 0 := by
  induction bs with
  | nil => rfl
  | cons b bs ih =>
    have hb := h b (by simp)
    rw [dueCount_cons, if_neg (by omega), ih fun c hc => h c (List.mem_cons_of_mem b hc)]

/-- A later alarm that joins a batch makes it a later one. -/
theorem dueCount_add {nowElapsed : ℤ} {batch : Batch} {alarm : TimerInfo}
    (hlater : nowElapsed < alarm.whenElapsed) (rest : List Batch) :
    dueCount nowElapsed ((batch.add alarm).1 :: rest) = dueCount nowElapsed rest := by
  have hstart := batch.add_start alarm
  rw [dueCount_cons, if_neg (by omega), Nat.zero_add]

theorem dueCount_insertAndBatch_le {nowElapsed : ℤ} (bs : List Batch) {alarm : TimerInfo}
    (hlater : nowElapsed < alarm.whenElapsed) :
    dueCount nowElapsed (insertAndBatch bs alarm) ≤ dueCount nowElapsed bs := by
  rcases insertAndBatch_perm bs alarm with ⟨_, hperm⟩ | ⟨batch, rest, rfl, _, hperm⟩
  · rw [dueCount_perm hperm, dueCount_cons, Batch.ofSeed_start, if_neg (by omega)]
    omega
  · rw [dueCount_perm hperm, dueCount_add hlater, dueCount_cons]
    omega

/-- The due batch in front is lost to the pass when a later alarm joins it. -/
theorem dueCount_insertAndBatch_lt {nowElapsed : ℤ} {batch : Batch} {rest : List Batch}
    {alarm : TimerInfo} (hlater : nowElapsed < alarm.whenElapsed)
    (hdue : batch.start ≤ nowElapsed) (hne : batch.alarms ≠ [])
    (hjoins : Coalesces (batch :: rest) alarm) :
    dueCount nowElapsed (insertAndBatch (batch :: rest) alarm)
      < dueCount nowElapsed (batch :: rest) := by
  rcases insertAndBatch_perm (batch :: rest) alarm with ⟨hno, _⟩ | ⟨b, cs, heq, _, hperm⟩
  · exact absurd hjoins hno
  · obtain ⟨rfl, rfl⟩ := List.cons.inj heq
    have hpos := List.length_pos_iff.mpr hne
    rw [dueCount_perm hperm, dueCount_add hlater, dueCount_cons, if_pos hdue]
    omega

/-- A later alarm that joins no batch goes behind the due ones. -/
theorem insertAndBatch_behind {nowElapsed : ℤ} {dues others : List Batch} {alarm : TimerInfo}
    (hdues : ∀ b ∈ dues, b.start ≤ nowElapsed) (hlater : nowElapsed < alarm.whenElapsed)
    (hno : ¬ Coalesces (dues ++ others) alarm) :
    ∃ others', insertAndBatch (dues ++ others) alarm = dues ++ others' ∧
      others'.Perm (Batch.ofSeed alarm :: others) := by
  rcases insertAndBatch_cases (dues ++ others) alarm with ⟨_, heq⟩ | ⟨_, _, _, hjoins, _⟩
  · rw [heq]
    refine UpperBound.insertUpper_append Batch.start fun b hb => ?_
    have := hdues b hb
    show b.start ≤ alarm.whenElapsed
    omega
  · exact absurd hjoins hno

theorem Coalesces.perm {bs cs : List Batch} {alarm : TimerInfo} (h : Coalesces bs alarm)
    (hperm : bs.Perm cs) : Coalesces cs alarm :=
  ⟨h.1, h.2.imp fun _ hb => ⟨hperm.mem_iff.mp hb.1, hb.2⟩⟩

/-- Re-arming leads past `nowElapsed`. -/
def TimerInfo.Advances (nowElapsed : ℤ) (a : TimerInfo) : Prop :=
  0 < a.repeatInterval → nowElapsed < (a.next nowElapsed).whenElapsed

section
variable {nowElapsed : ℤ} {due later : List Batch}

/-- The walk has been undisturbed so far: of the due batches `front` have been popped and `dues`
    wait in front of all others; `popped` have been triggered, and what they were re-armed for lies
    behind, in batches of its own as long as a due batch waits. -/
structure Walking (nowElapsed : ℤ) (due later front dues others : List Batch)
    (popped : List TimerInfo) (p : TriggerPass) (as : List TimerInfo) : Prop where
  split : due = front ++ dues
  alarms : pending front = popped ++ as
  batches : p.schedule.alarmBatches = dues ++ others
  list : p.triggerList = popped.map (TimerInfo.triggered nowElapsed)
  others_later : ∀ b ∈ others, nowElapsed < b.start
  others_pending : (pending others).Perm
    (pending later ++ (popped.filter TimerInfo.repeats).map (TimerInfo.next nowElapsed))
  others_perm : dues ≠ [] → others.Perm (later ++ rearmedBatches nowElapsed popped)
  noneJoined : NoneJoined nowElapsed [] (due ++ later) ↔
    (dues ≠ [] → JoinsNone nowElapsed (dues ++ later) (rearmedBatches nowElapsed popped) as) ∧
      NoneJoined nowElapsed (rearmedBatches nowElapsed (popped ++ as)) (dues ++ later)

/-- A re-armed alarm has joined a due batch, and there are too few alarms left to trigger. -/
structure Disturbed (nowElapsed : ℤ) (due later : List Batch) (p : TriggerPass)
    (as : List TimerInfo) : Prop where
  disturbed : ¬ NoneJoined nowElapsed [] (due ++ later)
  fewer : p.triggerList.length + as.length + dueCount nowElapsed p.schedule.alarmBatches
    < (pending due).length

theorem Walking.start (s : Schedule) (hbatches : s.alarmBatches = due ++ later)
    (hlater : ∀ b ∈ later, nowElapsed < b.start) :
    Walking nowElapsed due later [] due later [] ⟨s, [], false⟩ [] where
  split := rfl
  alarms := rfl
  batches := hbatches
  list := rfl
  others_later := hlater
  others_pending := by simp
  others_perm _ := by simp
  noneJoined := ⟨fun h => ⟨fun _ => joinsNone_nil, h⟩, fun h => h.2⟩

/-- A due batch is popped. -/
theorem Walking.pop {front dues others : List Batch} {popped : List TimerInfo} {p : TriggerPass}
    {batch : Batch} {rest : List Batch}
    (h : Walking nowElapsed due later front dues others popped p [])
    (hdue : ∀ b ∈ due, b.start ≤ nowElapsed) (hlater : ∀ b ∈ later, nowElapsed < b.start)
    (hbs : p.schedule.alarmBatches = batch :: rest) (hbatch : batch.start ≤ nowElapsed) :
    ∃ dues', dues = batch :: dues' ∧
      Walking nowElapsed due later (front ++ [batch]) dues' others popped (p.popBatch rest)
        batch.alarms := by
  have hsplit := h.batches
  rw [hbs] at hsplit
  cases dues with
  | nil =>
    -- what lies behind the due batches is not due
    have hmem : batch ∈ others := by
      rw [List.nil_append] at hsplit
      rw [← hsplit]
      simp
    have := h.others_later batch hmem
    omega
  | cons b dues' =>
    obtain ⟨rfl, rfl⟩ := List.cons.inj hsplit
    have hhead : (∀ next ∈ (dues' ++ later).head?, next.start ≤ nowElapsed →
        JoinsNone nowElapsed (dues' ++ later) (rearmedBatches nowElapsed popped) batch.alarms) ↔
        (dues' ≠ [] →
          JoinsNone nowElapsed (dues' ++ later) (rearmedBatches nowElapsed popped)
            batch.alarms) := by
      cases dues' with
      | nil =>
        refine ⟨fun _ hne => absurd rfl hne, fun _ next hnext hstart => ?_⟩
        have := hlater next (List.mem_of_mem_head? hnext)
        omega
      | cons c dues'' =>
        have hc : c.start ≤ nowElapsed := hdue c (by rw [h.split]; simp)
        exact ⟨fun hall _ => hall c rfl hc, fun hjoins _ _ _ => hjoins (List.cons_ne_nil _ _)⟩
    refine ⟨dues', rfl, ?_⟩
    exact {
      split := by rw [h.split, List.append_assoc, List.singleton_append]
      alarms := by
        have halarms := h.alarms
        rw [List.append_nil] at halarms
        simp [pending, ← halarms]
      batches := by simp
      list := h.list
      others_later := h.others_later
      others_pending := h.others_pending
      others_perm := fun _ => h.others_perm (List.cons_ne_nil _ _)
      noneJoined := by
        rw [h.noneJoined, List.append_nil, List.cons_append, noneJoined_cons, hhead,
          rearmedBatches_append]
        exact ⟨fun hall => hall.2, fun hall => ⟨fun _ => joinsNone_nil, hall⟩⟩ }

/-- An alarm of the popped batch has been triggered, and what it is re-armed for lies behind. -/
theorem Walking.triggered {front dues others others' : List Batch} {popped as : List TimerInfo}
    {p : TriggerPass} {a : TimerInfo}
    (h : Walking nowElapsed due later front dues others popped p (a :: as))
    (hbatches : (triggerAlarm nowElapsed p a).schedule.alarmBatches = dues ++ others')
    (hlater : ∀ b ∈ others', nowElapsed < b.start)
    (hpending : (pending others').Perm
      (pending others ++ ([a].filter TimerInfo.repeats).map (TimerInfo.next nowElapsed)))
    (hperm : dues ≠ [] → others'.Perm (others ++ rearmedBatches nowElapsed [a]))
    (hjoins : dues ≠ [] → 0 < a.repeatInterval →
      ¬ Coalesces (dues ++ others) (a.next nowElapsed)) :
    Walking nowElapsed due later front dues others' (popped ++ [a])
      (triggerAlarm nowElapsed p a) as where
  split := h.split
  alarms := by simp [h.alarms]
  batches := hbatches
  list := by simp [h.list]
  others_later := hlater
  others_pending := by
    rw [List.filter_append, List.map_append, ← List.append_assoc]
    exact hpending.trans (h.others_pending.append_right _)
  others_perm hdues := by
    rw [rearmedBatches_append, ← List.append_assoc]
    exact (hperm hdues).trans ((h.others_perm hdues).append_right _)
  noneJoined := by
    have hcons : (dues ≠ [] → JoinsNone nowElapsed (dues ++ later)
        (rearmedBatches nowElapsed popped) (a :: as)) ↔
        (dues ≠ [] → JoinsNone nowElapsed (dues ++ later)
          (rearmedBatches nowElapsed (popped ++ [a])) as) := by
      refine forall_congr' fun hdues => ?_
      rw [joinsNone_cons, rearmedBatches_append]
      refine and_iff_right fun hr hco => hjoins hdues hr (hco.perm ?_)
      rw [List.append_assoc]
      exact (h.others_perm hdues).symm.append_left dues
    rw [h.noneJoined, hcons, List.append_assoc popped, List.singleton_append]

/-- A re-armed alarm finds a batch to join while a due one waits: the due batch in front is lost to
    the pass. -/
theorem Walking.disturbed {front others dues' : List Batch} {popped as : List TimerInfo}
    {p : TriggerPass} {a : TimerInfo} {batch : Batch}
    (h : Walking nowElapsed due later front (batch :: dues') others popped p (a :: as))
    (hdue : ∀ b ∈ due, b.start ≤ nowElapsed) (hne : ∀ b ∈ due, b.alarms ≠ [])
    (hr : 0 < a.repeatInterval) (hlater : nowElapsed < (a.next nowElapsed).whenElapsed)
    (hjoins : Coalesces (batch :: (dues' ++ others)) (a.next nowElapsed)) :
    Disturbed nowElapsed due later (triggerAlarm nowElapsed p a) as := by
  have hdues : ∀ b ∈ batch :: dues', b.start ≤ nowElapsed := by
    intro b hb
    exact hdue b (by rw [h.split]; exact List.mem_append_right _ hb)
  have hmem : batch ∈ due := by
    rw [h.split]
    simp
  constructor
  · intro hund
    have hall := (h.noneJoined.mp hund).1 (List.cons_ne_nil _ _)
    refine (joinsNone_cons.mp hall).1 hr (hjoins.perm ?_)
    rw [← List.cons_append, List.append_assoc]
    exact (h.others_perm (List.cons_ne_nil _ _)).append_left _
  · have hbatches := triggerAlarm_alarmBatches nowElapsed p a
    rw [if_pos hr, h.batches, List.cons_append] at hbatches
    have hlost := dueCount_insertAndBatch_lt hlater (hdues batch (by simp)) (hne batch hmem) hjoins
    have hcount : dueCount nowElapsed (batch :: (dues' ++ others))
        = (pending (batch :: dues')).length := by
      rw [← List.cons_append, dueCount_append, dueCount_of_due hdues,
        dueCount_of_later h.others_later, Nat.add_zero]
    have hlength := congrArg List.length h.alarms
    rw [List.length_append, List.length_cons] at hlength
    rw [hbatches, triggerAlarm_triggerList, h.list, h.split, pending_append,
      List.length_append, List.length_append, List.length_map, List.length_singleton]
    omega

/-- An alarm of the popped batch is triggered: what it is re-armed for goes behind the due batches,
    unless it finds a batch to join while a due one waits. -/
theorem Walking.alarm {front dues others : List Batch} {popped as : List TimerInfo}
    {p : TriggerPass} {a : TimerInfo}
    (h : Walking nowElapsed due later front dues others popped p (a :: as))
    (hdue : ∀ b ∈ due, b.start ≤ nowElapsed) (hne : ∀ b ∈ due, b.alarms ≠ [])
    (hadvances : a.Advances nowElapsed) :
    (∃ others', Walking nowElapsed due later front dues others' (popped ++ [a])
      (triggerAlarm nowElapsed p a) as) ∨
      Disturbed nowElapsed due later (triggerAlarm nowElapsed p a) as := by
  have hbatches := triggerAlarm_alarmBatches nowElapsed p a
  rw [h.batches] at hbatches
  by_cases hr : 0 < a.repeatInterval
  · have hlater := hadvances hr
    have hsingle : rearmedBatches nowElapsed [a] = [Batch.ofSeed (a.next nowElapsed)] := by
      rw [rearmedBatches_singleton, if_pos hr]
    have hrepeats : [a].filter TimerInfo.repeats = [a] := by simp [TimerInfo.repeats, hr]
    rw [if_pos hr] at hbatches
    have hdues : ∀ b ∈ dues, b.start ≤ nowElapsed := by
      intro b hb
      exact hdue b (by rw [h.split]; exact List.mem_append_right _ hb)
    by_cases hco : Coalesces (dues ++ others) (a.next nowElapsed)
    · cases hwait : dues with
      | nil =>
        -- no due batch waits: wherever the alarm goes, it is behind
        left
        rw [hwait, List.nil_append] at hbatches
        rw [hwait] at h
        refine ⟨_, h.triggered hbatches ?_ ?_ (fun hnil => absurd rfl hnil)
          (fun hnil => absurd rfl hnil)⟩
        · refine insertAndBatch_forall h.others_later ?_ fun b _ hb => ?_
          · rw [Batch.ofSeed_start]
            exact hlater
          · rw [Batch.add_start]
            omega
        · rw [hrepeats]
          exact (insertAndBatch_pending others _).trans (List.perm_append_singleton _ _).symm
      | cons batch dues' =>
        rw [hwait] at h hco
        exact .inr (h.disturbed hdue hne hr hlater hco)
    · left
      obtain ⟨others', heq, hperm⟩ := insertAndBatch_behind hdues hlater hco
      rw [heq] at hbatches
      refine ⟨others', h.triggered hbatches (fun b hb => ?_) ?_ (fun _ => ?_) fun _ _ => hco⟩
      · rcases List.mem_cons.mp (hperm.mem_iff.mp hb) with rfl | hb
        · rw [Batch.ofSeed_start]
          exact hlater
        · exact h.others_later b hb
      · rw [hrepeats]
        exact (pending_perm hperm).trans (List.perm_append_singleton _ _).symm
      · rw [hsingle]
        exact hperm.trans (List.perm_append_singleton _ _).symm
  · left
    have hrepeats : [a].filter TimerInfo.repeats = [] := by simp [TimerInfo.repeats, hr]
    have hnone : rearmedBatches nowElapsed [a] = [] := by
      rw [rearmedBatches_singleton, if_neg hr]
    rw [if_neg hr] at hbatches
    refine ⟨others, h.triggered hbatches h.others_later ?_ (fun _ => ?_)
      fun _ hrepeat => absurd hrepeat hr⟩
    · rw [hrepeats, List.map_nil, List.append_nil]
    · rw [hnone, List.append_nil]

theorem Disturbed.pop {p : TriggerPass} {batch : Batch} {rest : List Batch}
    (h : Disturbed nowElapsed due later p []) (hbs : p.schedule.alarmBatches = batch :: rest)
    (hbatch : batch.start ≤ nowElapsed) :
    Disturbed nowElapsed due later (p.popBatch rest) batch.alarms where
  disturbed := h.disturbed
  fewer := by
    have hfewer := h.fewer
    rw [hbs, dueCount_cons, if_pos hbatch, List.length_nil] at hfewer
    show p.triggerList.length + batch.alarms.length + dueCount nowElapsed rest
      < (pending due).length
    omega

theorem Disturbed.alarm {p : TriggerPass} {a : TimerInfo} {as : List TimerInfo}
    (h : Disturbed nowElapsed due later p (a :: as)) (hadvances : a.Advances nowElapsed) :
    Disturbed nowElapsed due later (triggerAlarm nowElapsed p a) as where
  disturbed := h.disturbed
  fewer := by
    have hfewer := h.fewer
    rw [List.length_cons] at hfewer
    have hcount : dueCount nowElapsed (triggerAlarm nowElapsed p a).schedule.alarmBatches
        ≤ dueCount nowElapsed p.schedule.alarmBatches := by
      rw [triggerAlarm_alarmBatches]
      split
      · rename_i hr
        exact dueCount_insertAndBatch_le _ (hadvances hr)
      · exact le_refl _
    rw [triggerAlarm_triggerList, List.length_append, List.length_singleton]
    omega

/-- **The walk.** The pass over due batches that come first triggers all their alarms and re-arms
    the repeating ones, or it is disturbed and triggers fewer. -/
theorem Schedule.triggerTimersLocked_walk {s : Schedule} (hbatches : s.alarmBatches = due ++ later)
    (hdue : ∀ b ∈ due, b.start ≤ nowElapsed) (hlater : ∀ b ∈ later, nowElapsed < b.start)
    (hne : ∀ b ∈ due, b.alarms ≠ []) (hadvances : ∀ a ∈ pending due, a.Advances nowElapsed) :
    (NoneJoined nowElapsed [] s.alarmBatches ∧
      (s.triggerTimersLocked nowElapsed).triggerList
        = (pending due).map (TimerInfo.triggered nowElapsed) ∧
      (pending (s.triggerTimersLocked nowElapsed).schedule.alarmBatches).Perm
        (pending later
          ++ ((pending due).filter TimerInfo.repeats).map (TimerInfo.next nowElapsed))) ∨
    ¬ NoneJoined nowElapsed [] s.alarmBatches ∧
      (s.triggerTimersLocked nowElapsed).triggerList.length < (pending due).length := by
  -- beside the walk itself: the alarms it can still reach are all re-armed past `nowElapsed`
  let Inv : TriggerPass → List TimerInfo → Prop := fun p as =>
    ((∃ front dues others popped, Walking nowElapsed due later front dues others popped p as) ∨
      Disturbed nowElapsed due later p as) ∧
    (∀ b ∈ p.schedule.alarmBatches, b.start ≤ nowElapsed →
      ∀ x ∈ b.alarms, x.Advances nowElapsed) ∧
    ∀ x ∈ as, x.Advances nowElapsed
  have hinit : Inv ⟨s, [], false⟩ [] := by
    refine ⟨.inl ⟨_, _, _, _, Walking.start s hbatches hlater⟩, fun b hb hstart x hx => ?_,
      fun x hx => by cases hx⟩
    change b ∈ s.alarmBatches at hb
    rw [hbatches] at hb
    rcases List.mem_append.mp hb with hb | hb
    · exact hadvances x (List.mem_flatMap.mpr ⟨b, hb, hx⟩)
    · have := hlater b hb
      omega
  obtain ⟨hwalk, _, _⟩ : Inv (s.triggerTimersLocked nowElapsed) [] := by
    refine triggerLoop_rule ?_ ?_ (triggerFuel s.alarmBatches) _ hinit
    · rintro p batch rest ⟨hwalk, hall, _⟩ hbs hstart
      rw [hbs] at hall
      refine ⟨?_, fun b hb => hall b (List.mem_cons_of_mem _ hb), hall batch (by simp) hstart⟩
      rcases hwalk with ⟨front, dues, others, popped, hwalk⟩ | hdisturbed
      · obtain ⟨dues', _, hwalk⟩ := hwalk.pop hdue hlater hbs hstart
        exact .inl ⟨_, _, _, _, hwalk⟩
      · exact .inr (hdisturbed.pop hbs hstart)
    · rintro p a as ⟨hwalk, hall, has⟩
      have ha := has a (by simp)
      refine ⟨?_, ?_, fun x hx => has x (List.mem_cons_of_mem _ hx)⟩
      · rcases hwalk with ⟨front, dues, others, popped, hwalk⟩ | hdisturbed
        · exact (hwalk.alarm hdue hne ha).imp_left fun ⟨_, hnext⟩ => ⟨_, _, _, _, hnext⟩
        · exact .inr (hdisturbed.alarm ha)
      · rw [triggerAlarm_alarmBatches]
        split
        · exact insertAndBatch_due hall (ha ‹_›)
        · exact hall
  rcases hwalk with ⟨front, dues, others, popped, hwalk⟩ | hdisturbed
  · left
    -- nothing due is left in front, so all due batches have been popped
    have hdrained := s.triggerTimersLocked_drained nowElapsed
    rw [hwalk.batches] at hdrained
    cases dues with
    | cons b dues =>
      have := hdue b (by rw [hwalk.split]; simp)
      have := hdrained b rfl
      omega
    | nil =>
      have hfront : due = front := by rw [hwalk.split, List.append_nil]
      have hpopped : pending due = popped := by rw [hfront, hwalk.alarms, List.append_nil]
      rw [hbatches, hwalk.list, hwalk.batches, hpopped]
      refine ⟨hwalk.noneJoined.mpr ⟨fun hnil => absurd rfl hnil, ?_⟩, rfl,
        hwalk.others_pending⟩
      exact noneJoined_of_later hlater
  · right
    have hfewer := hdisturbed.fewer
    rw [hbatches]
    exact ⟨hdisturbed.disturbed, by omega⟩

end

/-! ### The cadence of a pass -/

section
variable {nowElapsed : ℤ}

/-- Due batches that come first are a prefix of the list. -/
theorem DueFirst.split {bs : List Batch} (h : DueFirst nowElapsed bs) :
    ∃ due later, bs = due ++ later ∧ (∀ b ∈ due, b.start ≤ nowElapsed) ∧
      ∀ b ∈ later, nowElapsed < b.start := by
  induction bs with
  | nil => exact ⟨[], [], rfl, by simp, by simp⟩
  | cons b bs ih =>
    obtain ⟨hfirst, hrest⟩ := List.pairwise_cons.mp h
    by_cases hb : b.start ≤ nowElapsed
    · obtain ⟨due, later, rfl, hdue, hlater⟩ := ih hrest
      exact ⟨b :: due, later, rfl, List.forall_mem_cons.mpr ⟨hb, hdue⟩, hlater⟩
    · refine ⟨[], b :: bs, rfl, by simp, List.forall_mem_cons.mpr ⟨by omega, fun c hc => ?_⟩⟩
      have := mt (hfirst c hc) hb
      omega

theorem dueAlarms_append (bs cs : List Batch) :
    dueAlarms nowElapsed (bs ++ cs) = dueAlarms nowElapsed bs ++ dueAlarms nowElapsed cs :=
  List.flatMap_append

theorem laterAlarms_append (bs cs : List Batch) :
    laterAlarms nowElapsed (bs ++ cs) = laterAlarms nowElapsed bs ++ laterAlarms nowElapsed cs :=
  List.flatMap_append

theorem dueAlarms_of_due {bs : List Batch} (h : ∀ b ∈ bs, b.start ≤ nowElapsed) :
    dueAlarms nowElapsed bs = pending bs := by
  refine List.flatMap_congr fun b hb => List.filter_eq_self.mpr fun a _ => ?_
  simp [Batch.isDue, h b hb]

theorem laterAlarms_of_due {bs : List Batch} (h : ∀ b ∈ bs, b.start ≤ nowElapsed) :
    laterAlarms nowElapsed bs = [] := by
  refine List.flatMap_eq_nil_iff.mpr fun b hb => List.filter_eq_nil_iff.mpr fun a _ => ?_
  simp [Batch.isDue, h b hb]

/-- In batches that are not due an alarm is due only when its window has ended. -/
theorem dueAlarms_eq_nil {bs : List Batch} (h : ∀ b ∈ bs, nowElapsed < b.start) :
    dueAlarms nowElapsed bs = [] ↔ ∀ b ∈ bs, ∀ a ∈ b.alarms, nowElapsed < a.maxWhenElapsed := by
  unfold dueAlarms
  rw [List.flatMap_eq_nil_iff]
  refine forall₂_congr fun b hb => ?_
  have hb := h b hb
  simp [List.filter_eq_nil_iff, Batch.isDue, hb]

theorem laterAlarms_of_later {bs : List Batch} (h : ∀ b ∈ bs, nowElapsed < b.start)
    (hwindow : ∀ b ∈ bs, ∀ a ∈ b.alarms, nowElapsed < a.maxWhenElapsed) :
    laterAlarms nowElapsed bs = pending bs := by
  refine List.flatMap_congr fun b hb => List.filter_eq_self.mpr fun a ha => ?_
  have hstart := h b hb
  have hend := hwindow b hb a ha
  simp [Batch.isDue, hstart, hend]

end

/-- **Cadence.** In every reachable state whose due batches come first, a pass triggers each due
    alarm once, and no other, and re-arms the repeating ones on their beat, exactly when those of
    the due batches are on their beat, no alarm waits past its window in a batch that is not due,
    and none that is re-armed finds a batch to join while a due batch waits. -/
theorem pass_cadence {s s' : System} {result : BitVec 32} {nowElapsed : ℤ}
    {triggerList : List TimerInfo} (h : Reachable Always s)
    (hlooper : s.looper = .checked result nowElapsed) (hresult : result ≠ timeChangedMask)
    (hstep : s.step (.pass triggerList) = some s')
    (hfirst : DueFirst nowElapsed s.schedule.alarmBatches) :
    Cadence s nowElapsed triggerList s' ↔ s.OnBeat nowElapsed := by
  rcases System.step_pass hlooper hstep with ⟨_, hlist, rfl⟩ | ⟨hmask, _⟩
  · obtain ⟨due, later, hsplit, hdue, hlater⟩ := hfirst.split
    have hmem : ∀ b ∈ due, b ∈ s.schedule.alarmBatches := by
      intro b hb
      rw [hsplit]
      exact List.mem_append_left _ hb
    have hne : ∀ b ∈ due, b.alarms ≠ [] := fun b hb => (h.batches_wf b (hmem b hb)).nonempty
    have hpast : ∀ b ∈ due, ∀ a ∈ b.alarms, a.whenElapsed ≤ nowElapsed := fun b hb a ha =>
      ((h.batches_wf b (hmem b hb)).whenElapsed_le_start ha).trans (hdue b hb)
    have hall : dueAlarms nowElapsed s.schedule.alarmBatches
        = pending due ++ dueAlarms nowElapsed later := by
      rw [hsplit, dueAlarms_append, dueAlarms_of_due hdue]
    have hothers : laterAlarms nowElapsed s.schedule.alarmBatches
        = laterAlarms nowElapsed later := by
      rw [hsplit, laterAlarms_append, laterAlarms_of_due hdue, List.nil_append]
    constructor
    · intro hcadence
      have hbeat : ∀ b ∈ due, ∀ a ∈ b.alarms, 0 < a.repeatInterval →
          NextBeat nowElapsed a (a.next nowElapsed) := by
        intro b hb a ha
        apply hcadence.beat a
        rw [hall]
        exact List.mem_append_left _ (List.mem_flatMap.mpr ⟨b, hb, ha⟩)
      have hadvances : ∀ a ∈ pending due, a.Advances nowElapsed := by
        intro a ha hr
        obtain ⟨b, hb, ha⟩ := List.mem_flatMap.mp ha
        exact (hbeat b hb a ha hr).later
      have hlength := hlist.1.symm.length_eq.trans hcadence.triggered.length_eq
      rw [List.length_map, hall, List.length_append] at hlength
      rcases Schedule.triggerTimersLocked_walk hsplit hdue hlater hne hadvances with
        ⟨hund, htriggered, _⟩ | ⟨_, hfewer⟩
      · -- no alarm but those of the due batches was triggered, so no other was due
        rw [htriggered, List.length_map] at hlength
        have hnone : dueAlarms nowElapsed later = [] := by
          apply List.eq_nil_of_length_eq_zero
          omega
        refine ⟨fun b hb hstart a ha hr => ?_, fun b hb hstart => ?_, hund⟩
        · rw [hsplit] at hb
          rcases List.mem_append.mp hb with hb | hb
          · exact (hbeat b hb a ha hr).onBeat hr (hpast b hb a ha)
          · have := hlater b hb
            omega
        · rw [hsplit] at hb
          rcases List.mem_append.mp hb with hb | hb
          · have := hdue b hb
            omega
          · exact (dueAlarms_eq_nil hlater).mp hnone b hb
      · omega
    · intro hbeat
      have hwindow : ∀ b ∈ later, ∀ a ∈ b.alarms, nowElapsed < a.maxWhenElapsed := by
        intro b hb
        exact hbeat.inWindow b (by rw [hsplit]; exact List.mem_append_right _ hb) (hlater b hb)
      have hnext : ∀ a ∈ pending due, 0 < a.repeatInterval →
          NextBeat nowElapsed a (a.next nowElapsed) := by
        intro a ha hr
        obtain ⟨b, hb, ha⟩ := List.mem_flatMap.mp ha
        exact (hbeat.beat b (hmem b hb) (hdue b hb) a ha hr).next hr (hpast b hb a ha)
      rw [(dueAlarms_eq_nil hlater).mpr hwindow, List.append_nil] at hall
      rw [laterAlarms_of_later hlater hwindow] at hothers
      rcases Schedule.triggerTimersLocked_walk hsplit hdue hlater hne
        (fun a ha hr => (hnext a ha hr).later) with ⟨_, htriggered, hpending⟩ | ⟨hnot, _⟩
      · refine ⟨?_, ?_, fun a ha => ?_⟩
        · rw [hall, ← htriggered]
          exact hlist.1
        · rw [hall, hothers]
          exact hpending
        · rw [hall] at ha
          exact hnext a ha
      · exact absurd hbeat.noneJoined hnot
  · exact absurd hmask hresult

/-- A repeating alarm of five seconds that fires two seconds late is re-armed on its beat. -/
theorem pass_cadence_late :
    ∃ (s s' : System) (alarm : TimerInfo),
      Cadence s 103000000000 [alarm] s' ∧ pending s'.schedule.alarmBatches ≠ [] := by
  let alarm := (TimerInfo.make 1 3 101000 101000000000 0 101000000000 5000 (some 0) 0 0).triggered
    103000000000
  obtain ⟨s, hs, hcheck⟩ := exists_reached
    (.createTimer [1] 3 0 5000 0 (some 0) 0 ::
      startTimerCall 1 101000 (fun _ => true) ⟨1000000000, 0⟩ ++
      [.advance 103000000000, .wake (some [(3, .expired)]) 0,
        .timeChange fun _ => ⟨103000000000, 0⟩])
    (fun s => s.looper = .checked 8#32 103000000000 &&
      decide (s.schedule.alarmBatches = [Batch.ofSeed
        (TimerInfo.make 1 3 101000 101000000000 0 101000000000 5000 (some 0) 0 0)]) &&
      (s.step (.pass [alarm])).any fun s' => pending s'.schedule.alarmBatches ≠ [])
    (by decide +kernel)
  simp only [Bool.and_eq_true, decide_eq_true_eq, Option.any_eq_true] at hcheck
  obtain ⟨⟨hlooper, hbatches⟩, s', hstep, hpending⟩ := hcheck
  refine ⟨s, s', alarm, (pass_cadence hs hlooper (by decide) hstep ?_).mpr ⟨?_, ?_, ?_⟩, hpending⟩
  · rw [hbatches]
    exact List.pairwise_singleton _ _
  · rw [hbatches]
    rintro c hc _ a ha _
    rw [List.mem_singleton.mp hc] at ha
    rw [List.mem_singleton.mp ha]
    rfl
  · rw [hbatches]
    rintro c hc hlater
    rw [List.mem_singleton.mp hc] at hlater
    exact absurd hlater (by decide)
  · rw [hbatches, noneJoined_cons]
    exact ⟨fun _ hnext => (nomatch hnext), noneJoined_of_later (by simp)⟩

/-- A wall clock set forward moves a repeating alarm before its `expectedWhenElapsed`.  The pass
    then counts a negative number of periods, re-arms the alarm in the past and triggers it
    again. -/
theorem cadence_lost :
    ¬ ∀ (s s' : System) (result : BitVec 32) (nowElapsed : ℤ) (triggerList : List TimerInfo),
      Reachable Always s → s.looper = .checked result nowElapsed → result ≠ timeChangedMask →
      s.step (.pass triggerList) = some s' → Cadence s nowElapsed triggerList s' := by
  intro hclaim
  -- an `RTC` alarm of five seconds for 1100 s, rebatched when the clock steps from 1001 s to 1096 s
  let alarm : TimerInfo :=
    { TimerInfo.make 1 1 1100000 101000000000 0 101000000000 5000 (some 0) 0 0 with
      whenElapsed := 6000000000
      maxWhenElapsed := 6000000000 }
  let triggerList := [(alarm.next 7000000000).triggered 7000000000, alarm.triggered 7000000000]
  obtain ⟨s, hs, hcheck⟩ := exists_reached
    (.createTimer [1] 1 0 5000 0 (some 0) 0 ::
      startTimerCall 1 1100000 (fun _ => true) ⟨1000000000, 1000000000000⟩ ++
      [.advance 2000000000] ++ clockChangeIteration ⟨2000000000, 1096000000000⟩ ++
      [.advance 7000000000, .wake (some [(3, .expired)]) 1101000000000,
        .timeChange fun _ => ⟨7000000000, 1101000000000⟩])
    (fun s => s.looper = .checked 8#32 7000000000 &&
      decide ((dueAlarms 7000000000 s.schedule.alarmBatches).length = 1) &&
      (s.step (.pass triggerList)).isSome)
    (by decide +kernel)
  simp only [Bool.and_eq_true, decide_eq_true_eq, Option.isSome_iff_exists] at hcheck
  obtain ⟨⟨hlooper, hone⟩, s', hstep⟩ := hcheck
  have htriggered := (hclaim s s' _ _ triggerList hs hlooper (by decide) hstep).triggered
  have hlength := htriggered.length_eq
  rw [List.length_map, hone] at hlength
  exact absurd hlength (by decide)

end TimeService
