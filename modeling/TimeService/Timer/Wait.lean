import TimeService.Timer.Manager

namespace TimeService

/-!
# Errors of a wait

`TimerHandler::WaitForAlarm` returns a set of bits, and minus one for an error, as one unsigned
number; `TimerLooper` tests it for a negative value and for the bit of a clock change.  Here a wait
has the `errno` values that the looper could tell apart.

* `looperIteration_faithful_iff`: when an iteration of the looper keeps errors and clock changes
  apart.
-/

/-- `EINTR`. -/
def eintr : ℕ := 4

/-- `ECANCELED`. -/
def ecanceled : ℕ := 125

/-- A ready timer with the outcome of `read` on it: success, or the `errno` of its failure. -/
abbrev ReadyTimer := Fin (alarmTypeCount + 1) × Option ℕ

/-- What `epoll_wait` gives: its failure, or the ready timers. -/
inductive WaitOutcome
  | failed (errno : ℕ)
  | ready (events : List ReadyTimer)
deriving DecidableEq, Repr

/-- The kernel has cancelled the timer of the clock changes. -/
def ReadyTimer.canceled (event : ReadyTimer) : Bool :=
  event.1.val = alarmTypeCount ∧ event.2 = some ecanceled

/-- Any other failure of a read. -/
def ReadyTimer.unexpected (event : ReadyTimer) : Bool :=
  event.2.isSome && !event.canceled

/-- The events whose timer `WaitForAlarm` reads: it returns at an unexpected failure. -/
def readsMade : List ReadyTimer → List ReadyTimer
  | [] => []
  | event :: rest => if event.unexpected then [event] else event :: readsMade rest

/-- What the loop of `WaitForAlarm` looks at in the outcome of a read. -/
def ReadyTimer.answer (event : ReadyTimer) : ReadAnswer :=
  match event.2 with
  | none => .expired
  | some errno => if errno = ecanceled then .canceled else .failed

/-- The outcome as `WaitForAlarm` meets it. -/
def WaitOutcome.events : WaitOutcome → Option (List (Fin (alarmTypeCount + 1) × ReadAnswer))
  | .failed _ => none
  | .ready events => some (events.map fun event => (event.1, event.answer))

/-- `errno` after a wait. -/
def WaitOutcome.errno (before : ℕ) : WaitOutcome → ℕ
  | .failed errno => errno
  | .ready events => ((readsMade events).filterMap Prod.snd).getLast?.getD before

/-- Some read has reported a clock change. -/
def WaitOutcome.Canceled : WaitOutcome → Prop
  | .failed _ => False
  | .ready events => ∃ event ∈ readsMade events, event.canceled = true

/-- The wait has failed, or a read has for another reason than a clock change. -/
def WaitOutcome.Erroneous : WaitOutcome → Prop
  | .failed _ => True
  | .ready events => ∃ event ∈ readsMade events, event.unexpected = true

/-- The loop `do … while (result < 0 && errno == EINTR)` of `TimerLooper`, on the outcomes of the
    waits to come: the result, the timers, and the waits that were made. -/
def TimerHandler.waitLoop (h : TimerHandler) (errno : ℕ) :
    List WaitOutcome → Option (BitVec 32 × TimerHandler × List WaitOutcome)
  | [] => none
  | wait :: waits =>
    let waited := h.waitForAlarm wait.events
    let errno := wait.errno errno
    -- `result` is a `uint32_t`, which is never less than zero
    if waited.1 < 0#32 ∧ errno = eintr then
      (waited.2.waitLoop errno waits).map fun r => (r.1, r.2.1, wait :: r.2.2)
    else some (waited.1, waited.2, [wait])

/-- An iteration of `TimerLooper` up to the end of its clock-change region: the waits that were
    made, their result, and the state after.  The wait begins in the state `s`; in `t`, which other
    calls may have made of it, the looper takes `mutex_`. -/
def System.looperIteration (s t : System) (errno : ℕ) (waits : List WaitOutcome) (nowRtc : ℤ)
    (clocks : ℕ → Clock) : Option (List WaitOutcome × BitVec 32 × System) :=
  (s.schedule.handler.waitLoop errno waits).map fun r =>
    (r.2.2, r.1, t.timeChange r.1 nowRtc s.bootTime clocks)

/-- The iteration enters its clock-change region. -/
def Considers (result : BitVec 32) : Prop := result &&& timeChangedMask ≠ 0#32

/-- What an iteration owes: it considers a rebatch only after a report of a clock change, it does
    not go on with an interrupted wait, and after an error it neither rebatches nor notes a clock
    change. -/
structure FaithfulIteration (made : List WaitOutcome) (result : BitVec 32) (t t' : System)
    (nowRtc nowElapsed : ℤ) : Prop where
  considers : Considers result → ∃ wait ∈ made, wait.Canceled
  retries : made.getLast? ≠ some (.failed eintr)
  ignores : ∀ wait, made.getLast? = some wait → wait.Erroneous →
    ¬ (Considers result ∧ t.clockChanged nowRtc nowElapsed = true) ∧
      t'.lastTimeChangeClockTime = t.lastTimeChangeClockTime ∧
      t'.lastTimeChangeRealtime = t.lastTimeChangeRealtime

/-! ### The result of a wait -/

/-- The unsigned result is not negative, so one wait is made. -/
theorem TimerHandler.waitLoop_cons (h : TimerHandler) (errno : ℕ) (wait : WaitOutcome)
    (waits : List WaitOutcome) :
    h.waitLoop errno (wait :: waits)
      = some ((h.waitForAlarm wait.events).1, (h.waitForAlarm wait.events).2, [wait]) := by
  unfold TimerHandler.waitLoop
  simp only
  rw [if_neg]
  rintro ⟨hneg, _⟩
  exact BitVec.not_lt_zero hneg

/-- The iteration is the wake and the clock-change region of the looper. -/
theorem System.looperIteration_cons (s t : System) (errno : ℕ) (wait : WaitOutcome)
    (waits : List WaitOutcome) (nowRtc : ℤ) (clocks : ℕ → Clock) :
    s.looperIteration t errno (wait :: waits) nowRtc clocks
      = some ([wait], (s.schedule.handler.waitForAlarm wait.events).1,
          t.timeChange (s.schedule.handler.waitForAlarm wait.events).1 nowRtc s.bootTime
            clocks) := by
  unfold System.looperIteration
  rw [TimerHandler.waitLoop_cons]
  rfl

/-- The steps of the manager that an iteration takes. -/
theorem System.step_looperIteration {s t : System} (hs : s.looper = .waiting) {errno : ℕ}
    {wait : WaitOutcome} {waits : List WaitOutcome} {nowRtc : ℤ} {clocks : ℕ → Clock}
    (ht : t.looper = (s.wake wait.events nowRtc).looper) :
    s.step (.wake wait.events nowRtc) = some (s.wake wait.events nowRtc) ∧
      t.step (.timeChange clocks)
        = (s.looperIteration t errno (wait :: waits) nowRtc clocks).map fun r => r.2.2 := by
  have hwoken : t.looper
      = .woken (s.schedule.handler.waitForAlarm wait.events).1 nowRtc s.bootTime := ht
  constructor
  · unfold System.step
    simp only [hs]
  · rw [System.looperIteration_cons]
    unfold System.step
    simp only [hwoken]
    rfl

/-- The bits of the timers are not the one of a clock change. -/
private theorem and_mask_timer (result : BitVec 32) (i : Fin (alarmTypeCount + 1)) :
    (result ||| 1#32 <<< i.val) &&& timeChangedMask = result &&& timeChangedMask := by
  have hbit : (1#32 <<< i.val) &&& timeChangedMask = 0#32 := by
    revert i
    decide
  rw [BitVec.and_comm, BitVec.and_or_distrib_left, BitVec.and_comm _ (1#32 <<< i.val), hbit,
    BitVec.or_zero, BitVec.and_comm]

/-- The events as the loop of `WaitForAlarm` goes over them. -/
def TimerHandler.readReady (handler : TimerHandler) (result : BitVec 32)
    (events : List ReadyTimer) : BitVec 32 × TimerHandler :=
  handler.readEvents result (events.map fun event => (event.1, event.answer))

/-- **An event, by cases.** Its read succeeds, reports a clock change, or ends the loop. -/
theorem TimerHandler.readReady_cons (handler : TimerHandler) (result : BitVec 32)
    (event : ReadyTimer) (rest : List ReadyTimer) :
    (event.unexpected = false ∧ event.canceled = false ∧
      handler.readReady result (event :: rest)
        = (handler.readFd event.1).readReady (result ||| 1#32 <<< event.1.val) rest) ∨
    (event.unexpected = false ∧ event.canceled = true ∧
      handler.readReady result (event :: rest)
        = handler.readReady (result ||| timeChangedMask) rest) ∨
    (event.unexpected = true ∧ event.canceled = false ∧
      handler.readReady result (event :: rest) = (-1#32, handler)) := by
  obtain ⟨alarmIdx, read⟩ := event
  cases read with
  | none => exact .inl ⟨rfl, by simp [ReadyTimer.canceled], rfl⟩
  | some errno =>
    right
    by_cases herrno : errno = ecanceled
    · subst herrno
      have hanswer : ReadyTimer.answer (alarmIdx, some ecanceled) = .canceled := rfl
      by_cases hidx : alarmIdx.val = alarmTypeCount
      · left
        refine ⟨by simp [ReadyTimer.unexpected, ReadyTimer.canceled, hidx],
          by simp [ReadyTimer.canceled, hidx], ?_⟩
        unfold TimerHandler.readReady
        rw [List.map_cons, hanswer, TimerHandler.readEvents, if_pos hidx]
      · right
        refine ⟨by simp [ReadyTimer.unexpected, ReadyTimer.canceled, hidx],
          by simp [ReadyTimer.canceled, hidx], ?_⟩
        unfold TimerHandler.readReady
        rw [List.map_cons, hanswer, TimerHandler.readEvents, if_neg hidx]
    · right
      have hanswer : ReadyTimer.answer (alarmIdx, some errno) = .failed := if_neg herrno
      refine ⟨by simp [ReadyTimer.unexpected, ReadyTimer.canceled, herrno],
        by simp [ReadyTimer.canceled, herrno], ?_⟩
      unfold TimerHandler.readReady
      rw [List.map_cons, hanswer, TimerHandler.readEvents]

/-- Reads without an unexpected failure: the bit of a clock change was there before or comes from
    the timer of the clock changes. -/
theorem TimerHandler.considers_readReady {events : List ReadyTimer}
    (h : ∀ event ∈ readsMade events, event.unexpected = false) (handler : TimerHandler)
    {result : BitVec 32} (hbit : Considers (handler.readReady result events).1) :
    Considers result ∨ ∃ event ∈ readsMade events, event.canceled = true := by
  induction events generalizing handler result with
  | nil => exact .inl hbit
  | cons event rest ih =>
    rcases handler.readReady_cons result event rest with
      ⟨hok, _, heq⟩ | ⟨hok, hcanceled, _⟩ | ⟨hfailed, _, _⟩
    · have hreads : readsMade (event :: rest) = event :: readsMade rest := by
        simp [readsMade, hok]
      rw [hreads] at h ⊢
      rw [heq] at hbit
      rcases ih (fun e he => h e (List.mem_cons_of_mem _ he)) _ hbit with hbefore | ⟨e, he, hc⟩
      · left
        unfold Considers at hbefore ⊢
        rwa [and_mask_timer] at hbefore
      · exact .inr ⟨e, List.mem_cons_of_mem _ he, hc⟩
    · have hreads : readsMade (event :: rest) = event :: readsMade rest := by
        simp [readsMade, hok]
      exact .inr ⟨event, by simp [hreads], hcanceled⟩
    · have hreads : readsMade (event :: rest) = [event] := by simp [readsMade, hfailed]
      have hfalse := h event (by simp [hreads])
      rw [hfailed] at hfalse
      cases hfalse

/-- An unexpected failure of a read is the result, whatever was read before. -/
theorem TimerHandler.readReady_of_unexpected {events : List ReadyTimer}
    (h : ∃ event ∈ readsMade events, event.unexpected = true) (handler : TimerHandler)
    (result : BitVec 32) : (handler.readReady result events).1 = -1#32 := by
  induction events generalizing handler result with
  | nil =>
    obtain ⟨event, hmem, _⟩ := h
    cases hmem
  | cons event rest ih =>
    have hrest : event.unexpected = false → ∃ e ∈ readsMade rest, e.unexpected = true := by
      intro hok
      obtain ⟨e, hmem, he⟩ := h
      have hreads : readsMade (event :: rest) = event :: readsMade rest := by
        simp [readsMade, hok]
      rw [hreads] at hmem
      rcases List.mem_cons.mp hmem with rfl | hmem
      · rw [hok] at he
        cases he
      · exact ⟨e, hmem, he⟩
    rcases handler.readReady_cons result event rest with
      ⟨hok, _, heq⟩ | ⟨hok, _, heq⟩ | ⟨_, _, heq⟩
    · rw [heq]
      exact ih (hrest hok) _ _
    · rw [heq]
      exact ih (hrest hok) _ _
    · rw [heq]

/-- An error has the bit of a clock change. -/
theorem considers_of_erroneous {wait : WaitOutcome} (h : wait.Erroneous)
    (handler : TimerHandler) : Considers (handler.waitForAlarm wait.events).1 := by
  have hresult : (handler.waitForAlarm wait.events).1 = -1#32 := by
    cases wait with
    | failed errno => rfl
    | ready events => exact TimerHandler.readReady_of_unexpected h handler 0#32
  rw [hresult]
  unfold Considers
  decide

/-- Without an error the bit of a clock change stands for one. -/
theorem canceled_of_considers {wait : WaitOutcome} (h : ¬ wait.Erroneous)
    {handler : TimerHandler} (hbit : Considers (handler.waitForAlarm wait.events).1) :
    wait.Canceled := by
  cases wait with
  | failed errno => exact (h trivial).elim
  | ready events =>
    have hreads : ∀ event ∈ readsMade events, event.unexpected = false := by
      intro event hmem
      by_contra hunexpected
      exact h ⟨event, hmem, by simpa using hunexpected⟩
    rcases TimerHandler.considers_readReady hreads handler hbit with hzero | hcanceled
    · exact (hzero (by decide)).elim
    · exact hcanceled

/-! ### When an iteration is faithful -/

/-- Without a rebatch no clock change is noted. -/
theorem System.timeChange_lastTimeChange {t : System} {result : BitVec 32} {nowRtc nowElapsed : ℤ}
    (h : ¬ (Considers result ∧ t.clockChanged nowRtc nowElapsed = true)) (clocks : ℕ → Clock) :
    (t.timeChange result nowRtc nowElapsed clocks).lastTimeChangeClockTime
        = t.lastTimeChangeClockTime ∧
      (t.timeChange result nowRtc nowElapsed clocks).lastTimeChangeRealtime
        = t.lastTimeChangeRealtime := by
  unfold Considers at h
  unfold System.timeChange
  rw [if_neg h]
  exact ⟨rfl, rfl⟩

/-- **Errors and clock changes.** For every outcome of `epoll_wait` and of the reads, in every
    state: the iteration is made and is faithful exactly when no error occurs, or the error is that
    of a read after a report of a clock change and the wall clock is where it is expected. -/
theorem looperIteration_faithful_iff (s t : System) (errno : ℕ) (wait : WaitOutcome)
    (waits : List WaitOutcome) (nowRtc : ℤ) (clocks : ℕ → Clock) :
    (∃ made result t',
      s.looperIteration t errno (wait :: waits) nowRtc clocks = some (made, result, t') ∧
        FaithfulIteration made result t t' nowRtc s.bootTime)
      ↔ ¬ wait.Erroneous ∨ wait.Canceled ∧ t.clockChanged nowRtc s.bootTime = false := by
  rw [System.looperIteration_cons]
  constructor
  · rintro ⟨made, result, t', heq, hfaithful⟩
    cases heq
    by_cases herror : wait.Erroneous
    · right
      have hconsiders := considers_of_erroneous herror s.schedule.handler
      obtain ⟨w, hw, hcanceled⟩ := hfaithful.considers hconsiders
      rw [List.mem_singleton] at hw
      subst hw
      have hignores := (hfaithful.ignores w rfl herror).1
      exact ⟨hcanceled, by simpa [hconsiders] using hignores⟩
    · exact .inl herror
  · intro hcond
    refine ⟨_, _, _, rfl, ⟨?_, ?_, ?_⟩⟩
    · intro hconsiders
      refine ⟨wait, List.mem_singleton_self wait, ?_⟩
      rcases hcond with hno | ⟨hcanceled, _⟩
      · exact canceled_of_considers hno hconsiders
      · exact hcanceled
    · intro hlast
      have hwait : wait = .failed eintr := by simpa using hlast
      rcases hcond with hno | ⟨hcanceled, _⟩
      · exact hno (hwait ▸ trivial)
      · rw [hwait] at hcanceled
        exact hcanceled
    · intro w hw herror
      obtain rfl : wait = w := by simpa using hw
      rcases hcond with hno | ⟨_, hclock⟩
      · exact (hno herror).elim
      · have hkept : ∀ result, ¬ (Considers result ∧ t.clockChanged nowRtc s.bootTime = true) :=
          fun result h => by simp [hclock] at h
        exact ⟨hkept _, System.timeChange_lastTimeChange (hkept _) clocks⟩

/-- A wait of a new manager that a signal interrupts: it is not repeated, the iteration rebatches
    and notes a clock change. -/
theorem looperIteration_interrupted :
    (¬ ∃ made result t',
      (System.init 1000000000).looperIteration (System.init 1000000000) 0
          [.failed eintr, .ready []] 5000000000 (fun _ => ⟨1000000000, 5000000000⟩)
        = some (made, result, t') ∧
      FaithfulIteration made result (System.init 1000000000) t' 5000000000 1000000000) ∧
    ((System.init 1000000000).looperIteration (System.init 1000000000) 0
        [.failed eintr, .ready []] 5000000000 (fun _ => ⟨1000000000, 5000000000⟩)).map
        (fun r => (r.1, r.2.1, r.2.2.lastTimeChangeClockTime))
      = some ([.failed eintr], -1#32, some 5000000000) := by
  constructor
  · rintro ⟨made, result, t', heq, hfaithful⟩
    rw [System.looperIteration_cons] at heq
    cases heq
    exact hfaithful.retries rfl
  · rw [System.looperIteration_cons]
    rfl

end TimeService
