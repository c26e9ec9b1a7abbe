import TimeService.Lib.Transition
import Mathlib.Algebra.Order.Ring.Int
import Mathlib.Data.List.Chain
import Mathlib.Tactic.Linarith

namespace TimeService

open Transition

/-!
# The minute tick

`time_tick_notify.cpp` over `Utils::Timer`, which is not in the repository: `UtilsTimer` is a
parameter, and `UtilsTimer.Lawful` says what the notifier relies on.  `Init` and the callback run
on threads of their own, one call after the other, so that anything can come between the answer of
`Register` and the store to `timerId_`.

`TimeTickNotify` never lets a registration come to its second period: its callback unregisters it
and registers a new one that ends with the minute of the wall clock.

* `ticks_by_minute`: when no callback starts before `Init` has stored `timerId_`, there is never
  more than one registration, for one to 60000 milliseconds; from any moment on, as long as the
  wall clock is not set, there are no two ticks in one minute, and there is one in every minute if
  the callback runs and registers in time;
* `ticks_raced`: a callback that starts before leaves two registrations, and ticks twice in a
  minute.

A run starts with `Init` and ends with `Stop`: what a second `Setup` does with the registrations of
the first one is not in the repository.
-/

/-- `MINUTE_TO_MILLISECOND`. -/
def minuteToMillisecond : UInt64 := 60000

/-- `MICRO_TO_MILESECOND`. -/
def microToMilesecond : UInt64 := 1000

/-! ### `Utils::Timer` -/

/-- A registration: its interval in milliseconds, and the microsecond of the steady clock before
    which its callback does not run. -/
structure Registration where
  id : ℕ
  interval : ℕ
  due : ℤ
deriving DecidableEq, Repr

/-- A timer with states `T`: the registrations not taken back, `Register` at a microsecond of the
    steady clock, which answers an id or an error code, `Unregister`, and what becomes of the timer
    when its thread starts the callback of a registration. -/
structure UtilsTimer (T : Type) where
  registrations : T → List Registration
  register : T → ℤ → UInt32 → ℕ × T
  unregister : T → ℕ → T
  expire : T → ℕ → T

/-- What the notifier relies on.  The due time is promised for the only registration: those of one
    interval may share a period. -/
structure UtilsTimer.Lawful {T : Type} (timer : UtilsTimer T) : Prop where
  /-- A call of `Register` fails, or adds one registration under the id it answers. -/
  register : ∀ t now interval,
    timer.registrations (timer.register t now interval).2 = timer.registrations t ∨
    ∃ due, timer.registrations (timer.register t now interval).2
        = timer.registrations t ++ [⟨(timer.register t now interval).1, interval.toNat, due⟩] ∧
      (timer.registrations t = [] → due = now + 1000 * interval.toNat)
  unregister : ∀ t id,
    timer.registrations (timer.unregister t id)
      = (timer.registrations t).filter fun r => r.id ≠ id
  /-- A registration is periodic: it stays, due at another time. -/
  expire : ∀ t id,
    (timer.registrations (timer.expire t id)).map (fun r => (r.id, r.interval))
      = (timer.registrations t).map fun r => (r.id, r.interval)

/-! ### The notifier -/

/-- `Init` has not been called, is under way, has returned; `Stop` has been called. -/
inductive TickPhase
  | created
  | starting
  | running
  | stopped
deriving DecidableEq, Repr

/-- What a thread does next: `storing` has the answer of `Register`. -/
inductive TickStage
  | idle
  | publishing
  | unregistering
  | refreshing
  | registering
  | storing (id : ℕ)
deriving DecidableEq, Repr

/-- The thread in `Init`, and the one on which `Utils::Timer` runs one callback after the other. -/
inductive TickThread
  | init
  | callback
deriving DecidableEq, Repr

/-- `TimeTickNotify` with its threads and the clocks: `wallOffset` is how far the wall clock is
    ahead of the steady clock, both in microseconds, and `ticks` are the wall clock times of the
    published events.  `readAt` is when the wall clock was last read, and `servedDue` when the
    registration that the last callback was started for was due. -/
structure TimeTick (T : Type) where
  phase : TickPhase
  timer : T
  timerId : ℕ
  nextTriggerTime : UInt64
  init : TickStage
  callback : TickStage
  steady : ℤ
  wallOffset : ℤ
  readAt : ℤ
  servedDue : ℤ
  ticks : List ℤ

variable {T : Type}

def TimeTick.wall (s : TimeTick T) : ℤ := s.steady + s.wallOffset

def TimeTick.stage (s : TimeTick T) : TickThread → TickStage
  | .init => s.init
  | .callback => s.callback

def TimeTick.goto (s : TimeTick T) (stage : TickStage) : TickThread → TimeTick T
  | .init => { s with init := stage }
  | .callback => { s with callback := stage }

/-- `TimeTickNotify::GetMillisecondsFromUTC`. -/
def getMillisecondsFromUTC (utcTimeMicro : UInt64) : UInt64 :=
  utcTimeMicro / microToMilesecond % minuteToMillisecond

/-- `TimeTickNotify::RefreshNextTriggerTime`, which reads the wall clock. -/
def TimeTick.refreshNextTriggerTime (s : TimeTick T) : TimeTick T :=
  { s with
    nextTriggerTime := minuteToMillisecond - getMillisecondsFromUTC (UInt64.ofInt s.wall)
    readAt := s.steady }

/-- `TimeTickNotify::Init` up to its first `if`. -/
def TimeTick.setup (s : TimeTick T) (setupOk : Bool) : TimeTick T :=
  if !setupOk then s else { s with phase := .starting, init := .refreshing }

/-- The timer starts `TimeTickNotify::Callback` for a registration. -/
def TimeTick.expire (timer : UtilsTimer T) (s : TimeTick T) (r : Registration) : TimeTick T :=
  { s with timer := timer.expire s.timer r.id, callback := .publishing, servedDue := r.due }

/-- `PublishTimeTickEvents`. -/
def TimeTick.publish (s : TimeTick T) : TimeTick T :=
  { s with ticks := s.ticks ++ [s.wall], callback := .unregistering }

/-- `timer_.Unregister(timerId_)`. -/
def TimeTick.unregister (timer : UtilsTimer T) (s : TimeTick T) : TimeTick T :=
  { s with timer := timer.unregister s.timer s.timerId, callback := .refreshing }

/-- `timer_.Register(callback, nextTriggerTime_)`. -/
def TimeTick.register (timer : UtilsTimer T) (s : TimeTick T) (thread : TickThread) : TimeTick T :=
  let answer := timer.register s.timer s.steady s.nextTriggerTime.toUInt32
  { s with timer := answer.2 }.goto (.storing answer.1) thread

/-- The answer of `Register` is stored, and the thread is done. -/
def TimeTick.store (s : TimeTick T) (id : ℕ) : TickThread → TimeTick T
  | .init => { s with timerId := id, init := .idle, phase := .running }
  | .callback => { s with timerId := id, callback := .idle }

/-- `TimeTickNotify::Stop`. -/
def TimeTick.stop (s : TimeTick T) : TimeTick T := { s with phase := .stopped }

/-- What happens: the calls of the two threads, the expiry of a registration that is due, `Stop`;
    time passes, the wall clock is set. -/
inductive TickAction
  | setup (setupOk : Bool)
  | expire (r : Registration)
  | publish
  | unregister
  | refresh (thread : TickThread)
  | register (thread : TickThread)
  | store (thread : TickThread)
  | stop
  | advance (steady : ℤ)
  | setClock (wallOffset : ℤ)

/-- One step; `none` when the action is not enabled. -/
def TimeTick.step (timer : UtilsTimer T) (s : TimeTick T) : TickAction → Option (TimeTick T)
  | .setup setupOk => if s.phase = .created then some (s.setup setupOk) else none
  | .expire r =>
    if (s.phase = .starting ∨ s.phase = .running) ∧ s.callback = .idle ∧
        r ∈ timer.registrations s.timer ∧ r.due ≤ s.steady then
      some (s.expire timer r)
    else none
  | .publish => if s.callback = .publishing then some s.publish else none
  | .unregister => if s.callback = .unregistering then some (s.unregister timer) else none
  | .refresh thread =>
    if s.stage thread = .refreshing then some (s.refreshNextTriggerTime.goto .registering thread)
    else none
  | .register thread =>
    if s.stage thread = .registering then some (s.register timer thread) else none
  | .store thread =>
    match s.stage thread with
    | .storing id => some (s.store id thread)
    | _ => none
  | .stop => if s.phase = .running then some s.stop else none
  | .advance steady => if s.steady ≤ steady then some { s with steady := steady } else none
  | .setClock wallOffset => some { s with wallOffset := wallOffset }

/-- A new notifier; `timerId_` and `nextTriggerTime_` are not initialized. -/
def TimeTick.new (t : T) (timerId : ℕ) (nextTriggerTime : UInt64) (steady wallOffset : ℤ) :
    TimeTick T :=
  ⟨.created, t, timerId, nextTriggerTime, .idle, .idle, steady, wallOffset, steady, steady, []⟩

/-! ### The next minute -/

/-- The minute of a wall clock time. -/
def minuteOf (wall : ℤ) : ℤ := wall / 60000000

theorem minuteOf_mono {x y : ℤ} (h : x ≤ y) : minuteOf x ≤ minuteOf y := by
  unfold minuteOf
  omega

theorem toNat_getMillisecondsFromUTC (utcTimeMicro : UInt64) :
    (getMillisecondsFromUTC utcTimeMicro).toNat = utcTimeMicro.toNat / 1000 % 60000 := by
  unfold getMillisecondsFromUTC
  rw [UInt64.toNat_mod, UInt64.toNat_div]
  rfl

/-- The next trigger time, for every reading of the clock. -/
theorem TimeTick.refreshNextTriggerTime_toNat (s : TimeTick T) :
    s.refreshNextTriggerTime.nextTriggerTime.toNat
      = 60000 - (UInt64.ofInt s.wall).toNat / 1000 % 60000 := by
  have hmod := toNat_getMillisecondsFromUTC (UInt64.ofInt s.wall)
  show (minuteToMillisecond - getMillisecondsFromUTC (UInt64.ofInt s.wall)).toNat = _
  have hle : getMillisecondsFromUTC (UInt64.ofInt s.wall) ≤ minuteToMillisecond := by
    rw [UInt64.le_iff_toNat_le, hmod]
    have : minuteToMillisecond.toNat = 60000 := rfl
    omega
  rw [UInt64.toNat_sub_of_le _ _ hle, hmod]
  rfl

/-- What a reading of the wall clock leads to: one to 60000 milliseconds, which end in the next
    minute, within its first millisecond. -/
structure NextTrigger (wall : ℤ) (nextTriggerTime : UInt64) : Prop where
  pos : 1 ≤ nextTriggerTime.toNat
  le : nextTriggerTime.toNat ≤ 60000
  minute : 0 ≤ wall → wall < 2 ^ 64 →
    (minuteOf wall + 1) * 60000000 ≤ wall + 1000 * nextTriggerTime.toNat ∧
      wall + 1000 * nextTriggerTime.toNat < (minuteOf wall + 1) * 60000000 + 1000

/-- **The next trigger time ends in the next minute.** -/
theorem TimeTick.refreshNextTriggerTime_cases (s : TimeTick T) :
    ∃ nextTriggerTime, NextTrigger s.wall nextTriggerTime ∧
      s.refreshNextTriggerTime
        = { s with nextTriggerTime := nextTriggerTime, readAt := s.steady } := by
  have hnext := s.refreshNextTriggerTime_toNat
  refine ⟨s.refreshNextTriggerTime.nextTriggerTime, ⟨by omega, by omega, fun hpos hlt => ?_⟩, rfl⟩
  have hword : ((UInt64.ofInt s.wall).toNat : ℤ) = s.wall := by
    rw [UInt64.ofInt, UInt64.toNat_ofNat']
    omega
  rw [hnext]
  unfold minuteOf
  omega

/-! ### Steps -/

/-- **Steps, by cases.** -/
inductive TickCase (timer : UtilsTimer T) (s : TimeTick T) : TickAction → TimeTick T → Prop
  | failed : TickCase timer s (.setup false) s
  | setup (hphase : s.phase = .created) :
      TickCase timer s (.setup true) { s with phase := .starting, init := .refreshing }
  | expire (r : Registration) (hphase : s.phase = .starting ∨ s.phase = .running)
      (hidle : s.callback = .idle) (hr : r ∈ timer.registrations s.timer)
      (hdue : r.due ≤ s.steady) : TickCase timer s (.expire r) (s.expire timer r)
  | publish (hstage : s.callback = .publishing) : TickCase timer s .publish s.publish
  | unregister (hstage : s.callback = .unregistering) :
      TickCase timer s .unregister (s.unregister timer)
  | refresh (thread : TickThread) (hstage : s.stage thread = .refreshing) :
      TickCase timer s (.refresh thread) (s.refreshNextTriggerTime.goto .registering thread)
  | register (thread : TickThread) (hstage : s.stage thread = .registering) :
      TickCase timer s (.register thread) (s.register timer thread)
  | store (thread : TickThread) (id : ℕ) (hstage : s.stage thread = .storing id) :
      TickCase timer s (.store thread) (s.store id thread)
  | stop (hphase : s.phase = .running) : TickCase timer s .stop s.stop
  | advance (steady) (hle : s.steady ≤ steady) :
      TickCase timer s (.advance steady) { s with steady := steady }
  | setClock (wallOffset) :
      TickCase timer s (.setClock wallOffset) { s with wallOffset := wallOffset }

theorem TimeTick.tickCase {timer : UtilsTimer T} {s s' : TimeTick T} {a : TickAction}
    (h : s.step timer a = some s') : TickCase timer s a s' := by
  unfold TimeTick.step at h
  cases a with
  | setup setupOk =>
    obtain ⟨hphase, hs'⟩ := Option.ite_none_right_eq_some.mp h
    cases hs'
    cases setupOk with
    | false => exact .failed
    | true => exact .setup hphase
  | expire r =>
    obtain ⟨⟨hphase, hidle, hr, hdue⟩, hs'⟩ := Option.ite_none_right_eq_some.mp h
    cases hs'
    exact .expire r hphase hidle hr hdue
  | publish =>
    obtain ⟨hstage, hs'⟩ := Option.ite_none_right_eq_some.mp h
    cases hs'
    exact .publish hstage
  | unregister =>
    obtain ⟨hstage, hs'⟩ := Option.ite_none_right_eq_some.mp h
    cases hs'
    exact .unregister hstage
  | refresh thread =>
    obtain ⟨hstage, hs'⟩ := Option.ite_none_right_eq_some.mp h
    cases hs'
    exact .refresh thread hstage
  | register thread =>
    obtain ⟨hstage, hs'⟩ := Option.ite_none_right_eq_some.mp h
    cases hs'
    exact .register thread hstage
  | store thread =>
    dsimp only at h
    split at h
    · rename_i id hstage
      cases h
      exact .store thread id hstage
    · cases h
  | stop =>
    obtain ⟨hphase, hs'⟩ := Option.ite_none_right_eq_some.mp h
    cases hs'
    exact .stop hphase
  | advance steady =>
    obtain ⟨hle, hs'⟩ := Option.ite_none_right_eq_some.mp h
    cases hs'
    exact .advance steady hle
  | setClock wallOffset =>
    cases h
    exact .setClock wallOffset

/-! ### One registration -/

/-- No callback starts before `Init` has stored `timerId_`. -/
def TimerIdStored (s : TimeTick T) : TickAction → Prop
  | .expire _ => s.phase = .running
  | _ => True

/-- The stage of the one thread that is not idle. -/
def TimeTick.active (s : TimeTick T) : TickStage :=
  if s.phase = .starting then s.init else s.callback

/-- There is at most one registration, under `id`. -/
structure UtilsTimer.Only (timer : UtilsTimer T) (t : T) (id : ℕ) : Prop where
  short : (timer.registrations t).length ≤ 1
  own : ∀ r ∈ timer.registrations t, r.id = id ∧ 1 ≤ r.interval ∧ r.interval ≤ 60000

/-- The registrations there are at a stage. -/
def TimeTick.Registers (timer : UtilsTimer T) (s : TimeTick T) : TickStage → Prop
  | .idle | .publishing | .unregistering => timer.Only s.timer s.timerId
  | .refreshing => timer.registrations s.timer = []
  | .registering => timer.registrations s.timer = [] ∧
      1 ≤ s.nextTriggerTime.toNat ∧ s.nextTriggerTime.toNat ≤ 60000
  | .storing id => timer.Only s.timer id

/-- One thread at a time is not idle, and there is at most one registration, the one that the next
    callback unregisters. -/
structure TimeTick.Ordered (timer : UtilsTimer T) (s : TimeTick T) : Prop where
  created : s.phase = .created → timer.registrations s.timer = [] ∧ s.callback = .idle
  starting : s.phase = .starting → s.callback = .idle
  started : s.phase ≠ .starting → s.init = .idle
  registers : s.Registers timer s.active
  read : s.readAt ≤ s.steady
  served : s.servedDue ≤ s.steady

/-- Only this thread may be at work. -/
def TimeTick.Turn (s : TimeTick T) : TickThread → Prop
  | .init => s.phase = .starting ∧ s.callback = .idle
  | .callback => (s.phase = .running ∨ s.phase = .stopped) ∧ s.init = .idle

section
variable {timer : UtilsTimer T} {s : TimeTick T} {thread : TickThread}

theorem TimeTick.Ordered.turn (h : s.Ordered timer) (hstage : s.stage thread ≠ .idle) :
    s.Turn thread := by
  cases thread with
  | init =>
    have hphase : s.phase = .starting := by
      by_contra hphase
      exact hstage (h.started hphase)
    exact ⟨hphase, h.starting hphase⟩
  | callback =>
    have hstarting : s.phase ≠ .starting := fun hphase => hstage (h.starting hphase)
    refine ⟨?_, h.started hstarting⟩
    cases hphase : s.phase with
    | created => exact absurd (h.created hphase).2 hstage
    | starting => exact absurd hphase hstarting
    | running => exact .inl rfl
    | stopped => exact .inr rfl

theorem TimeTick.Turn.congr {u : TimeTick T} (h : s.Turn thread) (hphase : u.phase = s.phase)
    (hinit : u.init = s.init) (hcallback : u.callback = s.callback) : u.Turn thread := by
  cases thread with
  | init => exact ⟨hphase.trans h.1, hcallback.trans h.2⟩
  | callback => exact ⟨h.1.imp hphase.trans hphase.trans, hinit.trans h.2⟩

theorem TimeTick.Turn.active (h : s.Turn thread) : s.active = s.stage thread := by
  unfold TimeTick.active
  cases thread with
  | init => exact if_pos h.1
  | callback =>
    refine if_neg fun hphase => ?_
    rcases h.1 with hrunning | hstopped
    · exact absurd (hphase.symm.trans hrunning) (by decide)
    · exact absurd (hphase.symm.trans hstopped) (by decide)

theorem TimeTick.Turn.goto (h : s.Turn thread) (stage : TickStage) :
    (s.goto stage thread).Turn thread := by
  cases thread with
  | init => exact h
  | callback => exact h

theorem TimeTick.Turn.goto_active (h : s.Turn thread) (stage : TickStage) :
    (s.goto stage thread).active = stage := by
  rw [(h.goto stage).active]
  cases thread with
  | init => rfl
  | callback => rfl

/-- A thread that has its turn goes on to its next stage. -/
theorem TimeTick.Turn.ordered (h : s.Turn thread) {stage : TickStage} (hread : s.readAt ≤ s.steady)
    (hserved : s.servedDue ≤ s.steady) (hregisters : s.Registers timer stage) :
    (s.goto stage thread).Ordered timer := by
  have hactive := h.goto_active stage
  cases thread with
  | init =>
    refine ⟨fun hphase => absurd (hphase.symm.trans h.1) (by decide), fun _ => h.2,
      fun hphase => absurd h.1 hphase, ?_, hread, hserved⟩
    rw [hactive]
    exact hregisters
  | callback =>
    have hother : ∀ phase, s.phase = phase → phase = .running ∨ phase = .stopped := by
      rintro phase rfl
      exact h.1
    refine ⟨fun hphase => absurd (hother _ hphase) (by decide),
      fun hphase => absurd (hother _ hphase) (by decide), fun _ => h.2, ?_, hread, hserved⟩
    rw [hactive]
    exact hregisters

end

theorem UtilsTimer.only_of_none {timer : UtilsTimer T} {t : T}
    (hnone : timer.registrations t = []) (id : ℕ) : timer.Only t id := by
  constructor
  · rw [hnone]
    exact Nat.zero_le 1
  · intro r hr
    rw [hnone] at hr
    cases hr

/-- What `Register` leaves when there was no registration. -/
theorem UtilsTimer.Lawful.register_only {timer : UtilsTimer T} (hlaws : timer.Lawful) {t : T}
    (hnone : timer.registrations t = []) (now : ℤ) {interval : UInt32}
    (hpos : 1 ≤ interval.toNat) (hle : interval.toNat ≤ 60000) :
    timer.Only (timer.register t now interval).2 (timer.register t now interval).1 ∧
      ∀ r ∈ timer.registrations (timer.register t now interval).2,
        r.due = now + 1000 * interval.toNat := by
  rcases hlaws.register t now interval with heq | ⟨due, heq, hdue⟩
  · rw [hnone] at heq
    refine ⟨UtilsTimer.only_of_none heq _, fun r hr => ?_⟩
    rw [heq] at hr
    cases hr
  · rw [hnone, List.nil_append] at heq
    refine ⟨⟨?_, fun r hr => ?_⟩, fun r hr => ?_⟩
    · rw [heq]
      exact Nat.le_refl 1
    · rw [heq] at hr
      rw [List.mem_singleton.mp hr]
      exact ⟨rfl, hpos, hle⟩
    · rw [heq] at hr
      rw [List.mem_singleton.mp hr]
      exact hdue hnone

/-- The only registration stays the only one when it expires. -/
theorem UtilsTimer.Only.expire {timer : UtilsTimer T} (hlaws : timer.Lawful) {t : T} {id : ℕ}
    (h : timer.Only t id) (expired : ℕ) : timer.Only (timer.expire t expired) id := by
  have hsame := hlaws.expire t expired
  constructor
  · have hlength := congrArg List.length hsame
    rw [List.length_map, List.length_map] at hlength
    rw [hlength]
    exact h.short
  · intro r hr
    have hmem := List.mem_map_of_mem (f := fun r : Registration => (r.id, r.interval)) hr
    rw [hsame] at hmem
    obtain ⟨r', hr', heq⟩ := List.mem_map.mp hmem
    obtain ⟨hid, hinterval⟩ := Prod.mk.inj heq
    rw [← hid, ← hinterval]
    exact h.own r' hr'

/-- It is gone when it is unregistered. -/
theorem UtilsTimer.Only.unregister {timer : UtilsTimer T} (hlaws : timer.Lawful) {t : T} {id : ℕ}
    (h : timer.Only t id) : timer.registrations (timer.unregister t id) = [] := by
  rw [hlaws.unregister, List.filter_eq_nil_iff]
  intro r hr
  simpa using (h.own r hr).1

theorem toNat_toUInt32_of_le {n : UInt64} (h : n.toNat ≤ 60000) : n.toUInt32.toNat = n.toNat := by
  rw [UInt64.toNat_toUInt32]
  exact Nat.mod_eq_of_lt (by omega)

section
variable {timer : UtilsTimer T} {s s' : TimeTick T} {a : TickAction}

/-- What a thread registers when it comes to that. -/
theorem TimeTick.Ordered.registering {thread : TickThread} (hlaws : timer.Lawful)
    (h : s.Ordered timer) (hstage : s.stage thread = .registering) :
    timer.Only (timer.register s.timer s.steady s.nextTriggerTime.toUInt32).2
        (timer.register s.timer s.steady s.nextTriggerTime.toUInt32).1 ∧
      ∀ r ∈ timer.registrations
          (timer.register s.timer s.steady s.nextTriggerTime.toUInt32).2,
        r.due = s.steady + 1000 * s.nextTriggerTime.toNat := by
  have hturn : s.Turn thread := h.turn (by rw [hstage]; decide)
  have hregisters := h.registers
  rw [hturn.active, hstage] at hregisters
  obtain ⟨hnone, hpos, hle⟩ := hregisters
  have hword := toNat_toUInt32_of_le hle
  rw [← hword] at hpos hle ⊢
  exact hlaws.register_only hnone s.steady hpos hle

/-- **One registration, one step.** -/
theorem TimeTick.Ordered.step (hlaws : timer.Lawful) (h : s.Ordered timer)
    (hok : TimerIdStored s a) (hcase : TickCase timer s a s') : s'.Ordered timer := by
  cases hcase with
  | failed => exact h
  | setup hphase =>
    obtain ⟨hnone, hidle⟩ := h.created hphase
    exact ⟨(nomatch ·), fun _ => hidle, fun hne => absurd rfl hne, hnone, h.read, h.served⟩
  | expire r _ hidle _ hdue =>
    have hphase : s.phase = .running := hok
    have hturn : s.Turn .callback := ⟨.inl hphase, h.started (by rw [hphase]; decide)⟩
    have honly := h.registers
    rw [hturn.active, show s.stage .callback = .idle from hidle] at honly
    let u : TimeTick T := { s with timer := timer.expire s.timer r.id, servedDue := r.due }
    have hu : u.Turn .callback := hturn
    show (u.goto .publishing .callback).Ordered timer
    exact hu.ordered h.read hdue (UtilsTimer.Only.expire hlaws honly r.id)
  | publish hstage =>
    have hturn : s.Turn .callback := h.turn (by rw [TimeTick.stage, hstage]; decide)
    have honly := h.registers
    rw [hturn.active, show s.stage .callback = .publishing from hstage] at honly
    let u : TimeTick T := { s with ticks := s.ticks ++ [s.wall] }
    have hu : u.Turn .callback := hturn
    show (u.goto .unregistering .callback).Ordered timer
    exact hu.ordered h.read h.served honly
  | unregister hstage =>
    have hturn : s.Turn .callback := h.turn (by rw [TimeTick.stage, hstage]; decide)
    have honly := h.registers
    rw [hturn.active, show s.stage .callback = .unregistering from hstage] at honly
    let u : TimeTick T := { s with timer := timer.unregister s.timer s.timerId }
    have hu : u.Turn .callback := hturn
    show (u.goto .refreshing .callback).Ordered timer
    exact hu.ordered h.read h.served (UtilsTimer.Only.unregister hlaws honly)
  | refresh thread hstage =>
    have hturn : s.Turn thread := h.turn (by rw [hstage]; decide)
    have hnone := h.registers
    rw [hturn.active, hstage] at hnone
    obtain ⟨next, hnext, heq⟩ := s.refreshNextTriggerTime_cases
    have hu : { s with nextTriggerTime := next, readAt := s.steady }.Turn thread :=
      hturn.congr rfl rfl rfl
    rw [heq]
    exact hu.ordered (le_refl s.steady) h.served ⟨hnone, hnext.pos, hnext.le⟩
  | register thread hstage =>
    have hturn : s.Turn thread := h.turn (by rw [hstage]; decide)
    have honly := (h.registering hlaws hstage).1
    let u : TimeTick T :=
      { s with timer := (timer.register s.timer s.steady s.nextTriggerTime.toUInt32).2 }
    have hu : u.Turn thread := hturn.congr rfl rfl rfl
    exact hu.ordered h.read h.served honly
  | store thread id hstage =>
    have hturn : s.Turn thread := h.turn (by rw [hstage]; exact TickStage.noConfusion)
    have honly := h.registers
    rw [hturn.active, hstage] at honly
    cases thread with
    | init =>
      -- from here on it is the callback's turn
      have hidle : (s.store id .init).active = .idle := hturn.2
      refine ⟨(nomatch ·), (nomatch ·), fun _ => rfl, ?_, h.read, h.served⟩
      rw [hidle]
      exact honly
    | callback =>
      let u : TimeTick T := { s with timerId := id }
      have hu : u.Turn .callback := hturn
      show (u.goto .idle .callback).Ordered timer
      exact hu.ordered h.read h.served honly
  | stop hphase =>
    have hstarted : s.phase ≠ .starting := by rw [hphase]; decide
    have hsame : s.stop.active = s.active := (if_neg hstarted).symm
    refine ⟨(nomatch ·), (nomatch ·), fun _ => h.started hstarted, ?_, h.read, h.served⟩
    rw [hsame]
    exact h.registers
  | advance steady hle =>
    exact ⟨h.created, h.starting, h.started, h.registers, h.read.trans hle, h.served.trans hle⟩
  | setClock => exact ⟨h.created, h.starting, h.started, h.registers, h.read, h.served⟩

theorem TimeTick.Ordered.new {t : T} (hnone : timer.registrations t = []) (timerId : ℕ)
    (nextTriggerTime : UInt64) (steady wallOffset : ℤ) :
    (TimeTick.new t timerId nextTriggerTime steady wallOffset).Ordered timer := by
  have honly : timer.Only t timerId := UtilsTimer.only_of_none hnone timerId
  exact ⟨fun _ => ⟨hnone, rfl⟩, (nomatch ·), fun _ => rfl, honly, le_refl steady, le_refl steady⟩

end

/-! ### When the next tick is due -/

/-- The times of the steady clock at which a tick is due, by the stage: that of a registration, of
    the callback under way, or of the registration about to be made. -/
def TimeTick.DueAt (timer : UtilsTimer T) (s : TimeTick T) (x : ℤ) : TickStage → Prop
  | .idle | .storing _ => ∃ r ∈ timer.registrations s.timer, r.due = x
  | .publishing => s.servedDue = x
  | .registering => s.readAt + 1000 * s.nextTriggerTime.toNat = x
  | .unregistering | .refreshing => False

/-- What a step makes of the due times: a reading of the clock leads to a new one, and a
    registration is as late as it follows its reading. -/
inductive DueStep (timer : UtilsTimer T) (s s' : TimeTick T) (x : ℤ) : TickAction → Prop
  | kept (a) (hdue : s.DueAt timer x s.active)
      (hactive : s'.active = .registering → s.active = .registering) : DueStep timer s s' x a
  | read (thread : TickThread) (next : UInt64) (hstage : s.stage thread = .refreshing)
      (hnext : NextTrigger s.wall next) (hx : x = s.steady + 1000 * next.toNat) :
      DueStep timer s s' x (.refresh thread)
  | registered (thread : TickThread) (hstage : s.stage thread = .registering)
      (hactive : s'.active ≠ .registering)
      (hx : x = s.steady + 1000 * s.nextTriggerTime.toNat) :
      DueStep timer s s' x (.register thread)

section
variable {timer : UtilsTimer T} {s s' : TimeTick T} {a : TickAction}

theorem TimeTick.Ordered.dueStep (hlaws : timer.Lawful) (h : s.Ordered timer)
    (hok : TimerIdStored s a) (hcase : TickCase timer s a s') {x : ℤ}
    (hdue : s'.DueAt timer x s'.active) : DueStep timer s s' x a := by
  cases hcase with
  | failed => exact .kept _ hdue id
  | setup => exact hdue.elim
  | expire r _ hidle hr =>
    have hphase : s.phase = .running := hok
    have hturn : s.Turn .callback := ⟨.inl hphase, h.started (by rw [hphase]; decide)⟩
    have hactive : (s.expire timer r).active = .publishing := hturn.goto_active .publishing
    rw [hactive] at hdue
    refine .kept _ ?_ (by rw [hactive]; exact (nomatch ·))
    rw [hturn.active, show s.stage .callback = .idle from hidle]
    exact ⟨r, hr, hdue⟩
  | publish hstage =>
    have hturn : s.Turn .callback := h.turn (by rw [TimeTick.stage, hstage]; decide)
    have hactive : s.publish.active = .unregistering := hturn.goto_active .unregistering
    rw [hactive] at hdue
    exact hdue.elim
  | unregister hstage =>
    have hturn : s.Turn .callback := h.turn (by rw [TimeTick.stage, hstage]; decide)
    have hactive : (s.unregister timer).active = .refreshing := hturn.goto_active .refreshing
    rw [hactive] at hdue
    exact hdue.elim
  | refresh thread hstage =>
    have hturn : s.Turn thread := h.turn (by rw [hstage]; decide)
    obtain ⟨next, hnext, heq⟩ := s.refreshNextTriggerTime_cases
    have hu : { s with nextTriggerTime := next, readAt := s.steady }.Turn thread :=
      hturn.congr rfl rfl rfl
    rw [heq, hu.goto_active] at hdue
    refine .read thread next hstage hnext ?_
    cases thread with
    | init => exact hdue.symm
    | callback => exact hdue.symm
  | register thread hstage =>
    have hturn : s.Turn thread := h.turn (by rw [hstage]; decide)
    have hall := (h.registering hlaws hstage).2
    let u : TimeTick T :=
      { s with timer := (timer.register s.timer s.steady s.nextTriggerTime.toUInt32).2 }
    have hu : u.Turn thread := hturn.congr rfl rfl rfl
    have hactive : (s.register timer thread).active = .storing _ := hu.goto_active _
    rw [hactive] at hdue
    refine .registered thread hstage (by rw [hactive]; exact TickStage.noConfusion) ?_
    cases thread with
    | init =>
      obtain ⟨r, hr, rfl⟩ := hdue
      exact hall r hr
    | callback =>
      obtain ⟨r, hr, rfl⟩ := hdue
      exact hall r hr
  | store thread id hstage =>
    have hturn : s.Turn thread := h.turn (by rw [hstage]; exact TickStage.noConfusion)
    have hidle : (s.store id thread).active = .idle := by
      cases thread with
      | init => exact hturn.2
      | callback => exact hturn.goto_active .idle
    rw [hidle] at hdue
    refine .kept _ ?_ (by rw [hidle]; exact (nomatch ·))
    rw [hturn.active, hstage]
    cases thread with
    | init => exact hdue
    | callback => exact hdue
  | stop hphase =>
    have hsame : s.stop.active = s.active := by
      refine (if_neg ?_).symm
      rw [hphase]
      decide
    rw [hsame] at hdue
    exact .kept _ hdue (by rw [hsame]; exact id)
  | advance => exact .kept _ hdue id
  | setClock => exact .kept _ hdue id

/-- What a step appends to the ticks, and that the steady clock does not go back. -/
theorem TickCase.ticks (hcase : TickCase timer s a s') :
    (s'.ticks = s.ticks ∨ a = .publish ∧ s.callback = .publishing ∧ s' = s.publish) ∧
      s.steady ≤ s'.steady := by
  cases hcase with
  | publish hstage => exact ⟨.inr ⟨rfl, hstage, rfl⟩, le_refl _⟩
  | refresh thread =>
    obtain ⟨next, _, heq⟩ := s.refreshNextTriggerTime_cases
    rw [heq]
    cases thread with
    | init => exact ⟨.inl rfl, le_refl _⟩
    | callback => exact ⟨.inl rfl, le_refl _⟩
  | register thread =>
    cases thread with
    | init => exact ⟨.inl rfl, le_refl _⟩
    | callback => exact ⟨.inl rfl, le_refl _⟩
  | store thread =>
    cases thread with
    | init => exact ⟨.inl rfl, le_refl _⟩
    | callback => exact ⟨.inl rfl, le_refl _⟩
  | advance steady hle => exact ⟨.inl rfl, hle⟩
  | _ => exact ⟨.inl rfl, le_refl _⟩

end

/-! ### Ticks and minutes -/

/-- The wall clock is not set, and its readings are those of a 64-bit count since 1970. -/
def ClockKept (s : TimeTick T) : TickAction → Prop
  | .refresh _ => 0 ≤ s.wall ∧ s.wall < 2 ^ 64
  | .setClock _ => False
  | _ => True

/-- A callback ticks and reads the clock in the minute in which it was due, and registers within a
    minute, less a millisecond, of the reading. -/
def PromptTicks (s : TimeTick T) : TickAction → Prop
  | .publish | .refresh .callback =>
    minuteOf s.wall = minuteOf (s.servedDue + s.wallOffset)
  | .register _ => s.steady - s.readAt ≤ 59999000
  | _ => True

/-- The ticks `since` those in `before` are in minutes of their own, and the next one is due in a
    later minute. -/
structure TimeTick.Apart (timer : UtilsTimer T) (before since : List ℤ) (s : TimeTick T) :
    Prop where
  ordered : s.Ordered timer
  ticks : s.ticks = before ++ since
  past : ∀ w ∈ since, w ≤ s.wall
  ahead : ∀ x, s.DueAt timer x s.active → ∀ w ∈ since, minuteOf w < minuteOf (x + s.wallOffset)
  apart : since.Pairwise fun x y => minuteOf x < minuteOf y

section
variable {timer : UtilsTimer T} {s s' : TimeTick T} {a : TickAction} {before since : List ℤ}

theorem TickCase.wallOffset (hok : ClockKept s a) (hcase : TickCase timer s a s') :
    s'.wallOffset = s.wallOffset := by
  cases hcase with
  | refresh thread =>
    obtain ⟨next, _, heq⟩ := s.refreshNextTriggerTime_cases
    rw [heq]
    cases thread with
    | init => rfl
    | callback => rfl
  | register thread =>
    cases thread with
    | init => rfl
    | callback => rfl
  | store thread =>
    cases thread with
    | init => rfl
    | callback => rfl
  | setClock => exact hok.elim
  | _ => rfl

/-- The tick of a callback comes when its registration was due, or later. -/
theorem TimeTick.Ordered.publishing (h : s.Ordered timer) (hstage : s.callback = .publishing) :
    s.DueAt timer s.servedDue s.active ∧ s.servedDue + s.wallOffset ≤ s.wall ∧
      ∀ x, ¬ s.publish.DueAt timer x s.publish.active := by
  have hturn : s.Turn .callback := h.turn (by rw [TimeTick.stage, hstage]; decide)
  have hactive : s.publish.active = .unregistering := hturn.goto_active .unregistering
  refine ⟨?_, ?_, fun x hdue => ?_⟩
  · rw [hturn.active, show s.stage .callback = .publishing from hstage]
    exact rfl
  · exact Int.add_le_add_right h.served s.wallOffset
  · rw [hactive] at hdue
    exact hdue

/-- **Apart, one step.** -/
theorem TimeTick.Apart.step (hlaws : timer.Lawful) (h : s.Apart timer before since)
    (hstored : TimerIdStored s a) (hok : ClockKept s a) (hcase : TickCase timer s a s') :
    ∃ since', s'.Apart timer before since' := by
  have hordered := h.ordered.step hlaws hstored hcase
  obtain ⟨hticks, hle⟩ := hcase.ticks
  have hoffset := hcase.wallOffset hok
  have hwall : s.wall ≤ s'.wall := by
    unfold TimeTick.wall
    omega
  have hpast : ∀ w ∈ since, w ≤ s'.wall := fun w hw => (h.past w hw).trans hwall
  rcases hticks with hticks | ⟨rfl, hstage, rfl⟩
  · refine ⟨since, hordered, by rw [hticks, h.ticks], hpast, fun x hdue w hw => ?_, h.apart⟩
    have hread := minuteOf_mono (h.past w hw)
    rw [hoffset]
    cases h.ordered.dueStep hlaws hstored hcase hdue with
    | kept _ hdue _ => exact h.ahead x hdue w hw
    | read thread next hstage hnext hx =>
      have hminute := (hnext.minute hok.1 hok.2).1
      have hlater : minuteOf s.wall + 1 ≤ minuteOf (s.wall + 1000 * next.toNat) := by
        unfold minuteOf at hminute ⊢
        omega
      have hsame : x + s.wallOffset = s.wall + 1000 * next.toNat := by
        unfold TimeTick.wall
        omega
      rw [hsame]
      omega
    | registered thread hstage _ hx =>
      have hturn : s.Turn thread := h.ordered.turn (by rw [hstage]; decide)
      have hbefore := h.ahead (s.readAt + 1000 * s.nextTriggerTime.toNat)
        (by rw [hturn.active, hstage]; exact rfl) w hw
      have hread := h.ordered.read
      exact hbefore.trans_le (minuteOf_mono (by omega))
  · obtain ⟨hdue, hserved, hnone⟩ := h.ordered.publishing hstage
    refine ⟨since ++ [s.wall], hordered, ?_, fun w hw => ?_, fun x hx => (hnone x hx).elim, ?_⟩
    · rw [← List.append_assoc, ← h.ticks]
      rfl
    · rcases List.mem_append.mp hw with hw | hw
      · exact hpast w hw
      · rw [List.mem_singleton.mp hw]
        exact hwall
    · refine List.pairwise_append.mpr ⟨h.apart, List.pairwise_singleton _ _, fun w hw x hx => ?_⟩
      rw [List.mem_singleton.mp hx]
      exact (h.ahead _ hdue w hw).trans_le (minuteOf_mono hserved)

/-- The ticks `since` those in `before` follow each other minute by minute, and the next one is due
    in the minute after the last, at its start when the registration is about to be made. -/
structure TimeTick.Prompt (timer : UtilsTimer T) (before since : List ℤ) (s : TimeTick T) :
    Prop where
  ordered : s.Ordered timer
  ticks : s.ticks = before ++ since
  ahead : ∀ x, s.DueAt timer x s.active → ∀ w ∈ since.getLast?,
    minuteOf (x + s.wallOffset) = minuteOf w + 1 ∧
      (s.active = .registering → (x + s.wallOffset) % 60000000 < 1000)
  /-- The last tick came when its registration was due. -/
  served : s.callback = .unregistering ∨ s.callback = .refreshing → ∀ w ∈ since.getLast?,
    minuteOf (s.servedDue + s.wallOffset) = minuteOf w
  chain : since.IsChain fun x y => minuteOf y = minuteOf x + 1
  started : s.phase = .created ∨ s.phase = .starting → since = []

/-- Which steps lead a callback from its tick on. -/
theorem TickCase.served (hcase : TickCase timer s a s')
    (hstage : s'.callback = .unregistering ∨ s'.callback = .refreshing) :
    a = .publish ∨
      (s.callback = .unregistering ∨ s.callback = .refreshing) ∧ s'.servedDue = s.servedDue := by
  cases hcase with
  | expire => exact hstage.elim (nomatch ·) (nomatch ·)
  | publish => exact .inl rfl
  | unregister hbefore => exact .inr ⟨.inl hbefore, rfl⟩
  | refresh thread hbefore =>
    obtain ⟨next, _, heq⟩ := s.refreshNextTriggerTime_cases
    rw [heq] at hstage ⊢
    cases thread with
    | init => exact .inr ⟨hstage, rfl⟩
    | callback => exact hstage.elim (nomatch ·) (nomatch ·)
  | register thread =>
    cases thread with
    | init => exact .inr ⟨hstage, rfl⟩
    | callback => exact hstage.elim (nomatch ·) (nomatch ·)
  | store thread =>
    cases thread with
    | init => exact .inr ⟨hstage, rfl⟩
    | callback => exact hstage.elim (nomatch ·) (nomatch ·)
  | _ => exact .inr ⟨hstage, rfl⟩

/-- `Init` is over only when it has stored `timerId_`. -/
theorem TickCase.started (hcase : TickCase timer s a s')
    (hphase : s'.phase = .created ∨ s'.phase = .starting) :
    s.phase = .created ∨ s.phase = .starting := by
  cases hcase with
  | setup hcreated => exact .inl hcreated
  | refresh thread =>
    obtain ⟨next, _, heq⟩ := s.refreshNextTriggerTime_cases
    rw [heq] at hphase
    cases thread with
    | init => exact hphase
    | callback => exact hphase
  | register thread =>
    cases thread with
    | init => exact hphase
    | callback => exact hphase
  | store thread =>
    cases thread with
    | init => exact hphase.elim (nomatch ·) (nomatch ·)
    | callback => exact hphase
  | stop => exact hphase.elim (nomatch ·) (nomatch ·)
  | _ => exact hphase

/-- **Prompt, one step.** -/
theorem TimeTick.Prompt.step (hlaws : timer.Lawful) (h : s.Prompt timer before since)
    (hstored : TimerIdStored s a) (hok : ClockKept s a) (hprompt : PromptTicks s a)
    (hcase : TickCase timer s a s') : ∃ since', s'.Prompt timer before since' := by
  have hordered := h.ordered.step hlaws hstored hcase
  have hoffset := hcase.wallOffset hok
  rcases hcase.ticks.1 with hticks | ⟨rfl, hstage, rfl⟩
  · refine ⟨since, hordered, by rw [hticks, h.ticks], fun x hdue w hw => ?_, fun hstage w hw => ?_,
      h.chain, fun hphase => h.started (hcase.started hphase)⟩
    · rw [hoffset]
      cases h.ordered.dueStep hlaws hstored hcase hdue with
      | kept _ hdue hactive =>
        obtain ⟨hminute, hsoon⟩ := h.ahead x hdue w hw
        exact ⟨hminute, fun hregistering => hsoon (hactive hregistering)⟩
      | read thread next hstage hnext hx =>
        have hturn : s.Turn thread := h.ordered.turn (by rw [hstage]; decide)
        have hsame : x + s.wallOffset = s.wall + 1000 * next.toNat := by
          unfold TimeTick.wall
          omega
        have hread := hnext.minute hok.1 hok.2
        cases thread with
        | init =>
          rw [h.started (.inr hturn.1)] at hw
          cases hw
        | callback =>
          -- the last tick, the due time and the reading are in one minute
          have hserved := h.served (.inr hstage) w hw
          have hprompt : minuteOf s.wall = minuteOf (s.servedDue + s.wallOffset) := hprompt
          rw [hsame, ← hserved, ← hprompt]
          unfold minuteOf at hread ⊢
          omega
      | registered thread hstage hactive hx =>
        have hturn : s.Turn thread := h.ordered.turn (by rw [hstage]; decide)
        have hregistering : s.active = .registering := by rw [hturn.active, hstage]
        obtain ⟨hminute, hsoon⟩ := h.ahead (s.readAt + 1000 * s.nextTriggerTime.toNat)
          (by rw [hregistering]; exact rfl) w hw
        have hsoon := hsoon hregistering
        have hread := h.ordered.read
        have hprompt : s.steady - s.readAt ≤ 59999000 := hprompt
        refine ⟨?_, fun hregistering => absurd hregistering hactive⟩
        rw [hx, ← hminute]
        unfold minuteOf
        omega
    · rcases hcase.served hstage with rfl | ⟨hbefore, hsame⟩
      · cases hcase
        exact absurd hticks (by simp [TimeTick.publish])
      · rw [hsame, hoffset]
        exact h.served hbefore w hw
  · obtain ⟨hdue, _, hnone⟩ := h.ordered.publishing hstage
    have hturn : s.Turn .callback := h.ordered.turn (by rw [TimeTick.stage, hstage]; decide)
    have hprompt : minuteOf s.wall = minuteOf (s.servedDue + s.wallOffset) := hprompt
    refine ⟨since ++ [s.wall], hordered, ?_, fun x hx => (hnone x hx).elim, fun _ w hw => ?_, ?_,
      fun hphase => ?_⟩
    · rw [← List.append_assoc, ← h.ticks]
      rfl
    · rw [List.getLast?_concat, Option.mem_some] at hw
      rw [← hw]
      exact hprompt.symm
    · refine List.isChain_append.mpr ⟨h.chain, List.IsChain.singleton _, fun w hw x hx => ?_⟩
      rw [List.head?_cons, Option.mem_some] at hx
      rw [← hx, hprompt]
      exact (h.ahead _ hdue w hw).1
    · exact absurd (hcase.started hphase) (by
        rcases hturn.1 with hrunning | hstopped
        · simp [hrunning]
        · simp [hstopped])

/-- At every stage there is at most one registration. -/
theorem TimeTick.Ordered.only (h : s.Ordered timer) : ∃ id, timer.Only s.timer id := by
  have hregisters := h.registers
  cases hactive : s.active with
  | refreshing =>
    rw [hactive] at hregisters
    exact ⟨0, UtilsTimer.only_of_none hregisters 0⟩
  | registering =>
    rw [hactive] at hregisters
    exact ⟨0, UtilsTimer.only_of_none hregisters.1 0⟩
  | storing id =>
    rw [hactive] at hregisters
    exact ⟨id, hregisters⟩
  | idle =>
    rw [hactive] at hregisters
    exact ⟨s.timerId, hregisters⟩
  | publishing =>
    rw [hactive] at hregisters
    exact ⟨s.timerId, hregisters⟩
  | unregistering =>
    rw [hactive] at hregisters
    exact ⟨s.timerId, hregisters⟩

end

/-- **A tick a minute.**  Whatever the clocks, the threads and the answers of `Register`, as long as
    no callback starts before `Init` has stored `timerId_`: there is at most one registration, for
    one to 60000 milliseconds, and it is the one in `timerId_` when a callback starts.  From any
    state of such a run on, there are no two ticks in one minute while the wall clock is not set,
    and no minute between two ticks is left out when the callbacks are prompt as well. -/
theorem ticks_by_minute {timer : UtilsTimer T} (hlaws : timer.Lawful) {t : T}
    (hnone : timer.registrations t = []) (timerId : ℕ) (nextTriggerTime : UInt64)
    (steady wallOffset : ℤ) {s : TimeTick T}
    (hs : Reaches (TimeTick.step timer) TimerIdStored
      (.new t timerId nextTriggerTime steady wallOffset) s) :
    ((timer.registrations s.timer).length ≤ 1 ∧
      ∀ r ∈ timer.registrations s.timer, 1 ≤ r.interval ∧ r.interval ≤ 60000 ∧
        (s.phase = .running → s.callback = .idle → r.id = s.timerId)) ∧
    (∀ s', Reaches (TimeTick.step timer) (fun s a => TimerIdStored s a ∧ ClockKept s a) s s' →
      ∃ since, s'.ticks = s.ticks ++ since ∧
        since.Pairwise fun x y => minuteOf x < minuteOf y) ∧
    (∀ s', Reaches (TimeTick.step timer)
        (fun s a => TimerIdStored s a ∧ ClockKept s a ∧ PromptTicks s a) s s' →
      ∃ since, s'.ticks = s.ticks ++ since ∧
        since.IsChain fun x y => minuteOf y = minuteOf x + 1) := by
  have hordered : s.Ordered timer := hs.invariant
    (fun _ _ _ h hok hstep => h.step hlaws hok (TimeTick.tickCase hstep))
    (TimeTick.Ordered.new hnone timerId nextTriggerTime steady wallOffset)
  refine ⟨?_, fun s' hreach => ?_, fun s' hreach => ?_⟩
  · obtain ⟨id, honly⟩ := hordered.only
    refine ⟨honly.short, fun r hr => ⟨(honly.own r hr).2.1, (honly.own r hr).2.2, ?_⟩⟩
    intro hphase hidle
    have hregisters := hordered.registers
    have hactive : s.active = .idle := by
      unfold TimeTick.active
      rw [if_neg (by rw [hphase]; decide)]
      exact hidle
    rw [hactive] at hregisters
    exact (hregisters.own r hr).1
  · have hstart : s.Apart timer s.ticks [] :=
      ⟨hordered, (List.append_nil _).symm, (fun _ hw => by cases hw),
        (fun _ _ _ hw => by cases hw), List.Pairwise.nil⟩
    have hstep : ∀ t a t', (∃ since, t.Apart timer s.ticks since) →
        TimerIdStored t a ∧ ClockKept t a → t.step timer a = some t' →
        ∃ since, t'.Apart timer s.ticks since :=
      fun _ _ _ ⟨_, h⟩ hok hstep => h.step hlaws hok.1 hok.2 (TimeTick.tickCase hstep)
    obtain ⟨since, hapart⟩ := hreach.invariant hstep ⟨[], hstart⟩
    exact ⟨since, hapart.ticks, hapart.apart⟩
  · have hstart : s.Prompt timer s.ticks [] :=
      ⟨hordered, (List.append_nil _).symm, (fun _ _ _ hw => by cases hw),
        (fun _ _ hw => by cases hw), List.IsChain.nil, fun _ => rfl⟩
    have hstep : ∀ t a t', (∃ since, t.Prompt timer s.ticks since) →
        TimerIdStored t a ∧ ClockKept t a ∧ PromptTicks t a → t.step timer a = some t' →
        ∃ since, t'.Prompt timer s.ticks since :=
      fun _ _ _ ⟨_, h⟩ hok hstep => h.step hlaws hok.1 hok.2.1 hok.2.2 (TimeTick.tickCase hstep)
    obtain ⟨since, hprompt⟩ := hreach.invariant hstep ⟨[], hstart⟩
    exact ⟨since, hprompt.ticks, hprompt.chain⟩

/-! ### Runs -/

instance (s : TimeTick T) (a : TickAction) : Decidable (TimerIdStored s a) :=
  match a with
  | .expire _ => inferInstanceAs (Decidable (s.phase = .running))
  | .setup _ | .publish | .unregister | .refresh _ | .register _ | .store _ | .stop | .advance _
  | .setClock _ => inferInstanceAs (Decidable True)

instance (s : TimeTick T) (a : TickAction) : Decidable (ClockKept s a) :=
  match a with
  | .refresh _ => inferInstanceAs (Decidable (0 ≤ s.wall ∧ s.wall < 2 ^ 64))
  | .setClock _ => inferInstanceAs (Decidable False)
  | .setup _ | .expire _ | .publish | .unregister | .register _ | .store _ | .stop
  | .advance _ => inferInstanceAs (Decidable True)

instance (s : TimeTick T) (a : TickAction) : Decidable (PromptTicks s a) :=
  match a with
  | .publish | .refresh .callback =>
    inferInstanceAs (Decidable (minuteOf s.wall = minuteOf (s.servedDue + s.wallOffset)))
  | .register _ => inferInstanceAs (Decidable (s.steady - s.readAt ≤ 59999000))
  | .refresh .init | .setup _ | .expire _ | .unregister | .store _ | .stop | .advance _
  | .setClock _ => inferInstanceAs (Decidable True)

/-- A timer that numbers its registrations: the next number, and those not taken back. -/
def numberedTimer : UtilsTimer (ℕ × List Registration) where
  registrations t := t.2
  register t now interval :=
    (t.1, t.1 + 1, t.2 ++ [⟨t.1, interval.toNat, now + 1000 * interval.toNat⟩])
  unregister t id := (t.1, t.2.filter fun r => r.id ≠ id)
  expire t id :=
    (t.1, t.2.map fun r => if r.id = id then { r with due := r.due + 1000 * r.interval } else r)

theorem numberedTimer_lawful : numberedTimer.Lawful where
  register t now interval := .inr ⟨now + 1000 * interval.toNat, rfl, fun _ => rfl⟩
  unregister _ _ := rfl
  expire t id := by
    unfold numberedTimer
    simp only [List.map_map]
    refine List.map_congr_left fun r _ => ?_
    simp only [Function.comp_apply]
    split <;> rfl

/-- The calls of a callback, one after the other. -/
def callbackCalls : List TickAction :=
  [.publish, .unregister, .refresh .callback, .register .callback, .store .callback]

/-- Half a minute after midnight, then the next two minutes. -/
theorem ticks_by_minute_two :
    ∃ s' : TimeTick (ℕ × List Registration),
      Reaches (TimeTick.step numberedTimer)
        (fun s a => TimerIdStored s a ∧ ClockKept s a ∧ PromptTicks s a)
        (.new (5, []) 77 0 30000000 0) s' ∧
      s'.ticks = [60002000, 120001000] ∧
      ∃ since, s'.ticks = [] ++ since ∧ since.IsChain fun x y => minuteOf y = minuteOf x + 1 := by
  let run : List TickAction :=
    [.setup true, .refresh .init, .advance 30001000, .register .init, .store .init,
      .advance 60002000, .expire ⟨5, 30000, 60001000⟩] ++ callbackCalls ++
    [.advance 120001000, .expire ⟨6, 59998, 120000000⟩] ++ callbackCalls
  obtain ⟨s', hreach, hticks⟩ := @exists_reaches_of_runWhen _ _ (TimeTick.step numberedTimer)
    (fun s a => TimerIdStored s a ∧ ClockKept s a ∧ PromptTicks s a) (.new (5, []) 77 0 30000000 0)
    (fun s a => decide (TimerIdStored s a ∧ ClockKept s a ∧ PromptTicks s a))
    (fun _ _ => of_decide_eq_true) run
    (fun s => decide (s.ticks = [60002000, 120001000])) (by decide +kernel)
  exact ⟨s', hreach, of_decide_eq_true hticks,
    (ticks_by_minute numberedTimer_lawful rfl 77 0 30000000 0 Reaches.refl).2.2 s' hreach⟩

/-- A callback that starts before `Init` has stored `timerId_`, 1 ms before the end of a minute:
    it unregisters nothing, and there are two registrations and two ticks in the next minute. -/
theorem ticks_raced :
    ∃ s' : TimeTick (ℕ × List Registration),
      Reaches (TimeTick.step numberedTimer) ClockKept (.new (5, []) 77 0 59999000 0) s' ∧
      (numberedTimer.registrations s'.timer).length = 2 ∧ s'.ticks = [60000000, 60001000] := by
  let run : List TickAction :=
    [.setup true, .refresh .init, .register .init, .advance 60000000,
      .expire ⟨5, 1, 60000000⟩] ++ callbackCalls ++
    [.store .init, .advance 60001000, .expire ⟨5, 1, 60001000⟩] ++ callbackCalls
  obtain ⟨s', hreach, hcheck⟩ := @exists_reaches_of_runWhen _ _ (TimeTick.step numberedTimer)
    ClockKept (.new (5, []) 77 0 59999000 0) (fun s a => decide (ClockKept s a))
    (fun _ _ => of_decide_eq_true) run
    (fun s => decide ((numberedTimer.registrations s.timer).length = 2 ∧
      s.ticks = [60000000, 60001000])) (by decide +kernel)
  exact ⟨s', hreach, of_decide_eq_true hcheck⟩

end TimeService
