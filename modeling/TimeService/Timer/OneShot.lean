import TimeService.Lib.Budget
import TimeService.Timer.Accounting
import TimeService.Timer.AlarmTable

namespace TimeService

open Transition Ledger AlarmTable

/-!
# What rings, and how often

The callbacks that the manager invokes, seen over whole runs.

* `callbacks_in_order`: the callbacks invoked for a uid, followed by the alarms held for it and by
  those still to be delivered, are alarms that passes have triggered, in the order of triggering
  and each at most once;
* `one_shot_once`: the alarms of a timer that do not repeat are triggered, cancelled and pending at
  most as often as `StartTimer` has set one, and exactly as often where no rebatch drops one; so a
  one-shot timer rings at most once for every time it is set.
-/

/-! ### The order of the callbacks -/

/-- The alarms with a callback, which alone `DeliverTimersLocked` fires. -/
def withCallback (alarms : List TimerInfo) : List TimerInfo :=
  alarms.filter fun a => a.callback.isSome

/-- The proxy table has been given the triggered alarms that have a callback, up to those that the
    looper has still to deliver. -/
def System.Fired (s : System) : Prop :=
  ∃ ops, s.proxy = ProxyRun.run ops ∧
    firedAlarms ops ++ withCallback s.looper.toDeliver = withCallback s.triggered

/-- A step that neither triggers nor delivers, and leaves nothing undelivered behind it. -/
theorem System.Fired.of_idle {s s' : System} (h : s.Fired) (hproxy : s'.proxy = s.proxy)
    (htriggered : s'.triggered = s.triggered)
    (hlooper : s'.looper.toDeliver = s.looper.toDeliver) : s'.Fired := by
  obtain ⟨ops, hrun, hfired⟩ := h
  refine ⟨ops, hproxy.trans hrun, ?_⟩
  rw [hlooper, htriggered]
  exact hfired

theorem System.Fired.step {s s' : System} {a : Action} (h : s.Fired) (hcase : StepCase s a s') :
    s'.Fired := by
  have hwhole := h
  obtain ⟨ops, hrun, hfired⟩ := h
  -- an operation on the proxy table that fires nothing
  have hidle : ∀ op : ProxyOp, op.fired = none → ∃ ops', s.proxy.step op = ProxyRun.run ops' ∧
      firedAlarms ops' ++ withCallback s.looper.toDeliver = withCallback s.triggered := by
    intro op hop
    refine ⟨ops ++ [op], by rw [hrun, ProxyRun.run_step], ?_⟩
    rw [firedAlarms_append, hop, Option.toList_none, List.append_nil]
    exact hfired
  cases hcase with
  | removeProxy timerNumber uid => exact hidle (.removeProxy timerNumber uid) rfl
  | proxyTimer uid isProxy needRetrigger => exact hidle (.proxyTimer uid isProxy needRetrigger) rfl
  | resetAllProxy => exact hidle .resetAllProxy rfl
  | trigger result nowElapsed triggerList hlooper =>
    refine ⟨ops, hrun, ?_⟩
    rw [hlooper] at hfired
    have hall : firedAlarms ops = withCallback s.triggered := (List.append_nil _).symm.trans hfired
    show firedAlarms ops ++ withCallback triggerList = withCallback (s.triggered ++ triggerList)
    rw [hall, withCallback, withCallback, withCallback, List.filter_append]
  | deliver alarm rest hlooper =>
    refine ⟨ops ++ [.deliver alarm], ?_, ?_⟩
    · exact (congrArg (·.step (.deliver alarm)) hrun).trans (ProxyRun.run_step ops _)
    · rw [hlooper] at hfired
      show firedAlarms (ops ++ [.deliver alarm]) ++ withCallback rest = withCallback s.triggered
      rw [← hfired, firedAlarms_append, List.append_assoc]
      -- the first of the list is fired if it has a callback
      congr 1
      show _ = withCallback (alarm :: rest)
      cases hcallback : alarm.callback.isSome <;> simp [withCallback, ProxyOp.fired, hcallback]
  | wake events nowRtc hlooper =>
    exact hwhole.of_idle rfl rfl (by rw [hlooper]; rfl)
  | clockKept result nowRtc nowElapsed clocks hlooper =>
    exact hwhole.of_idle rfl rfl (by rw [hlooper]; rfl)
  | rebatch result nowRtc nowElapsed clocks hlooper =>
    exact hwhole.of_idle rfl rfl (by rw [hlooper]; rfl)
  | noTrigger result nowElapsed hlooper => exact hwhole.of_idle rfl rfl (by rw [hlooper]; rfl)
  | reschedule hlooper => exact hwhole.of_idle rfl rfl (by rw [hlooper]; rfl)
  | _ => exact ⟨ops, hrun, hfired⟩

theorem Reachable.fired {s : System} (h : Reachable Always s) : s.Fired :=
  h.invariant (fun _ _ => ⟨[], rfl, rfl⟩) fun _ _ _ ht _ hcase => ht.step hcase

/-- What was invoked, what is held and what is to be delivered of a uid, in the order of
    triggering. -/
theorem System.Fired.sublist {s : System} (h : s.Fired) (uid : ℤ) :
    (s.proxy.delivered.filter (fun a => a.uid = uid) ++ s.proxy.table.queue uid
      ++ (withCallback s.looper.toDeliver).filter fun a => a.uid = uid).Sublist
      (s.triggered.filter fun a => a.callback.isSome ∧ a.uid = uid) := by
  obtain ⟨ops, hrun, hfired⟩ := h
  obtain ⟨ledger, hledger⟩ := exists_accounts ops
  have hsub := hledger.inOrder.sublist uid
  rw [hledger.fired, ← hledger.delivered, ← hledger.held, ← hrun] at hsub
  have hall := hsub.append (List.Sublist.refl ((withCallback s.looper.toDeliver).filter fun a =>
    a.uid = uid))
  rw [← List.filter_append, hfired] at hall
  have hboth : (withCallback s.triggered).filter (fun a => a.uid = uid)
      = s.triggered.filter fun a => a.callback.isSome ∧ a.uid = uid := by
    simp [withCallback, List.filter_filter, and_comm]
  rwa [hboth] at hall

/-- What was invoked of a uid, in the order of triggering. -/
theorem System.Fired.delivered_sublist {s : System} (h : s.Fired) (uid : ℤ) :
    (s.proxy.delivered.filter fun a => a.uid = uid).Sublist
      (s.triggered.filter fun a => a.callback.isSome ∧ a.uid = uid) :=
  ((List.sublist_append_left _ _).trans (List.sublist_append_left _ _)).trans (h.sublist uid)

/-- A callback is invoked for an alarm that a pass has triggered. -/
theorem System.Fired.mem_triggered {s : System} (h : s.Fired) {a : TimerInfo}
    (ha : a ∈ s.proxy.delivered) : a ∈ s.triggered := by
  have hsub := h.delivered_sublist a.uid
  exact List.mem_of_mem_filter (hsub.subset (List.mem_filter.mpr ⟨ha, by simp⟩))

/-- **Callbacks in order.** In every reachable state, for every uid: the alarms whose callback was
    invoked, followed by those that are held and by those that the looper has still to deliver, are
    alarms with a callback that passes have put in their trigger lists, in the same order and each
    at most once, and all of them were due; and the trigger list of the next pass is in the order
    of `whenElapsed`. -/
theorem callbacks_in_order {s : System} (h : Reachable Always s) :
    (∀ uid, (s.proxy.delivered.filter (fun a => a.uid = uid) ++ s.proxy.table.queue uid
        ++ (withCallback s.looper.toDeliver).filter fun a => a.uid = uid).Sublist
      (s.triggered.filter fun a => a.callback.isSome ∧ a.uid = uid)) ∧
    (∀ a ∈ s.triggered, a.whenElapsed ≤ s.bootTime) ∧
    ∀ triggerList s', s.step (.pass triggerList) = some s' →
      s'.triggered = s.triggered ++ triggerList ∧
        triggerList.Pairwise fun x y => x.whenElapsed ≤ y.whenElapsed := by
  refine ⟨h.fired.sublist, h.punctual.triggered, fun triggerList s' hstep => ?_⟩
  obtain ⟨result, nowElapsed, hlooper⟩ := System.looper_of_pass hstep
  rcases System.step_pass hlooper hstep with ⟨_, hlist, rfl⟩ | ⟨_, rfl, rfl⟩
  · exact ⟨rfl, hlist.2⟩
  · exact ⟨(List.append_nil _).symm, List.Pairwise.nil⟩

/-- Two alarms of a uid are delivered in the order in which a pass has triggered them. -/
theorem callbacks_in_order_shared :
    ∃ s : System, s.proxy.delivered.map TimerInfo.id = [1, 2] ∧
      (s.proxy.delivered.filter (fun a => a.uid = 0) ++ s.proxy.table.queue 0
          ++ (withCallback s.looper.toDeliver).filter fun a => a.uid = 0).Sublist
        (s.triggered.filter fun a => a.callback.isSome ∧ a.uid = 0) := by
  obtain ⟨s, hreach, hcheck⟩ := exists_reached sharedPass
    (fun s => s.proxy.delivered.map TimerInfo.id = [1, 2]) (by decide +kernel)
  rw [decide_eq_true_eq] at hcheck
  exact ⟨s, hcheck, (callbacks_in_order hreach).1 0⟩

/-! ### How often one-shot alarms ring -/

/-- The alarm is one of the timer, and does not repeat. -/
def TimerInfo.OneShotOf (timerNumber : ℕ) (a : TimerInfo) : Prop :=
  a.id = timerNumber ∧ ¬ a.repeatInterval > 0

instance (timerNumber : ℕ) (a : TimerInfo) : Decidable (a.OneShotOf timerNumber) :=
  inferInstanceAs (Decidable (_ ∧ _))

/-- How many alarms of the timer that do not repeat an action sets. -/
def setsOneShot (timerNumber : ℕ) (s : System) (a : Action) : ℕ :=
  match a, s.entryCall with
  | .setHandlerLocked, some (.setHandlerLocked alarm) =>
    if alarm.OneShotOf timerNumber then 1 else 0
  | _, _ => 0

/-- A one-shot alarm leaves nothing behind it, and re-adding makes at most itself of it. -/
theorem conserves_oneShotOf (timerNumber : ℕ) :
    Conserves alarmRules (TimerInfo.OneShotOf timerNumber) where
  ring nowElapsed a := by
    have hsame : (alarmRules.ringing nowElapsed a).OneShotOf timerNumber
        ↔ a.OneShotOf timerNumber := Iff.rfl
    have hnone : (alarmRules.again nowElapsed a).countP (TimerInfo.OneShotOf timerNumber) = 0 := by
      show Multiset.countP _ (if a.repeatInterval > 0 then {a.next nowElapsed} else 0) = 0
      split
      · -- the next alarm of a repeating one repeats
        rename_i hrepeats
        rw [Multiset.countP_eq_zero]
        intro x hx hone
        rw [Multiset.mem_singleton.mp hx] at hone
        exact hone.2 hrepeats
      · rfl
    rw [hnone, zero_add, if_congr hsame rfl rfl]
  become nowElapsed a new hnew := by
    obtain ⟨clock, rfl⟩ := hnew
    cases hread : a.reAdded nowElapsed clock with
    | none => exact Nat.zero_le _
    | some y =>
      obtain ⟨_, _, _, _, rfl⟩ := TimerInfo.reAdded_eq_some hread
      rw [Option.toList_some, ← Multiset.cons_coe, Multiset.countP_cons, Multiset.coe_nil,
        Multiset.countP_zero, Nat.zero_add]
      exact Nat.le_refl _

/-- The alarms of the timer that do not repeat and are pending, triggered or removed. -/
def System.oneShots (s : System) (timerNumber : ℕ) : ℕ :=
  (pending s.schedule.alarmBatches ++ s.triggered ++ s.removed).countP fun a =>
    a.OneShotOf timerNumber

theorem System.table_total (s : System) (timerNumber : ℕ) :
    s.table.total (TimerInfo.OneShotOf timerNumber) = s.oneShots timerNumber := rfl

/-- A step adds at most the one-shot alarm that it sets. -/
theorem StepCase.oneShots_le {s s' : System} {a : Action} (h : StepCase s a s') (hp : s.Punctual)
    (timerNumber : ℕ) :
    s'.oneShots timerNumber ≤ s.oneShots timerNumber + setsOneShot timerNumber s a := by
  rw [← System.table_total, ← System.table_total]
  rcases h.table hp with ⟨alarm, rfl, hcall, heq⟩ | hquiet
  · rw [heq, Table.total_set]
    unfold setsOneShot
    simp only [hcall]
    exact Nat.le_refl _
  · exact (total_le_of_quiet hquiet (conserves_oneShotOf timerNumber)).trans (Nat.le_add_right _ _)

/-- What is accounted for has the one-shot alarms of the timer. -/
theorem System.oneShots_eq_accounted (s : System) (timerNumber : ℕ) :
    s.oneShots timerNumber = s.accounted.countP fun a => a.OneShotOf timerNumber := by
  unfold System.oneShots System.accounted
  rw [List.countP_map]
  rfl

/-- Only the insertion of a `StartTimer` sets an alarm. -/
theorem setsOneShot_eq_zero {s : System} {a : Action} {timerNumber : ℕ}
    (h : ¬ ∃ alarm, a = .setHandlerLocked ∧ s.entryCall = some (.setHandlerLocked alarm)) :
    setsOneShot timerNumber s a = 0 := by
  unfold setsOneShot
  split
  · rename_i alarm hcall
    exact absurd ⟨alarm, rfl, hcall⟩ h
  · rfl

/-- A step that loses nothing adds exactly the one-shot alarm that it sets. -/
theorem System.oneShots_of_step {s s' : System} {a : Action} (hstep : s.step a = some s')
    (hp : s.Punctual) (hkeeps : KeepsAlarms s a) (timerNumber : ℕ) :
    s'.oneShots timerNumber = s.oneShots timerNumber + setsOneShot timerNumber s a := by
  have h := System.stepCase hstep
  refine Nat.le_antisymm (h.oneShots_le hp timerNumber) ?_
  by_cases hset : ∃ alarm, a = .setHandlerLocked ∧ s.entryCall = some (.setHandlerLocked alarm)
  · obtain ⟨_, rfl, _⟩ := hset
    obtain ⟨alarm, hcall, _, rfl⟩ := System.step_setHandlerLocked hstep
    rw [← System.table_total, ← System.table_total, s.setHandlerLocked_table, Table.total_set]
    unfold setsOneShot
    simp only [hcall]
    exact Nat.le_refl _
  · -- what was accounted for still is
    have hlost := List.subperm_ext_iff.mpr fun x _ => h.noneLost_iff.mpr hkeeps x
    have hle := hlost.countP_le fun a => decide (a.OneShotOf timerNumber)
    rw [← System.oneShots_eq_accounted, ← System.oneShots_eq_accounted] at hle
    rw [setsOneShot_eq_zero hset]
    exact hle

/-- A run of the manager in which `n` one-shot alarms of the timer are set. -/
abbrev SetsOneShots (ok : System → Action → Prop) (timerNumber : ℕ) : System → ℕ → System → Prop :=
  Spends System.step ok (setsOneShot timerNumber)

/-- The callbacks invoked for alarms with `P` are of alarms with `P` that passes have triggered. -/
theorem System.Fired.delivered_le {s : System} (h : s.Fired) (P : TimerInfo → Bool) :
    s.proxy.delivered.countP P ≤ s.triggered.countP P := by
  refine (List.subperm_ext_iff.mpr fun a _ => ?_).countP_le P
  -- the alarms that equal one of the uid are among the alarms of the uid
  have hof : ∀ l : List TimerInfo, (l.filter fun x => x.uid = a.uid).count a = l.count a := by
    intro l
    rw [List.count_filter]
    simp
  rw [← hof s.proxy.delivered]
  have hsub := h.delivered_sublist a.uid
  exact (hsub.count_le a).trans (List.filter_sublist.count_le a)

/-- A run accounts for at most as many one-shot alarms as it sets. -/
theorem System.oneShots_le {bootTime : ℤ} (hboot : 0 < bootTime) {timerNumber n : ℕ} {s : System}
    (hrun : SetsOneShots Always timerNumber (System.init bootTime) n s) :
    s.oneShots timerNumber ≤ n := by
  have hnew : Reachable Always (System.init bootTime) := ⟨_, hboot, Reaches.refl⟩
  have hle := hrun.potential_le
    (fun t a t' (ht : t.Punctual) _ hstep => ht.step (System.stepCase hstep))
    (fun t a t' ht _ hstep => (System.stepCase hstep).oneShots_le ht timerNumber) hnew.punctual
  rwa [show (System.init bootTime).oneShots timerNumber = 0 from rfl, Nat.zero_add] at hle

/-- **A one-shot timer rings at most once for every time it is set.** In every run of a new manager
    that sets `n` one-shot alarms of a timer, callbacks have been invoked for these alarms at most
    as often as passes have triggered one, and at most `n` of them are pending, triggered or
    removed; if every rebatch of the run puts all alarms back, it is exactly `n`. -/
theorem one_shot_once {bootTime : ℤ} (hboot : 0 < bootTime) (timerNumber n : ℕ) (s : System) :
    (SetsOneShots Always timerNumber (System.init bootTime) n s →
      s.proxy.delivered.countP (fun a => a.OneShotOf timerNumber)
          ≤ s.triggered.countP (fun a => a.OneShotOf timerNumber) ∧
        s.oneShots timerNumber ≤ n) ∧
    (SetsOneShots KeepsAlarms timerNumber (System.init bootTime) n s →
      s.oneShots timerNumber = n) := by
  have hnew : Reachable Always (System.init bootTime) := ⟨_, hboot, Reaches.refl⟩
  constructor
  · intro hrun
    exact ⟨(hnew.reaches hrun.reaches).fired.delivered_le _, System.oneShots_le hboot hrun⟩
  · intro hrun
    have heq := hrun.potential_eq
      (fun t a t' (ht : t.Punctual) _ hstep => ht.step (System.stepCase hstep))
      (fun t a t' ht hkeeps hstep => System.oneShots_of_step hstep ht hkeeps timerNumber)
      hnew.punctual
    rwa [show (System.init bootTime).oneShots timerNumber = 0 from rfl, Nat.zero_add] at heq

/-- The step makes no rebatch. -/
private def noRebatch (s : System) : Action → Bool
  | .removeHandler _ => false
  | .timeChange _ =>
    match s.looper with
    | .woken result _ _ => result &&& timeChangedMask = 0#32
    | _ => true
  | _ => true

private theorem keepsAlarms_of_noRebatch (s : System) (a : Action) (h : noRebatch s a = true) :
    KeepsAlarms s a := by
  cases a with
  | removeHandler clocks => cases h
  | timeChange clocks =>
    rintro result nowRtc nowElapsed hlooper ⟨hchanged, _⟩
    unfold noRebatch at h
    simp only [hlooper, decide_eq_true_eq] at h
    exact absurd h hchanged
  | _ => trivial

/-- The first of two one-shot alarms has rung, once. -/
theorem one_shot_once_shared :
    ∃ s : System, s.oneShots 1 = 1 ∧
      s.proxy.delivered.countP (fun a => a.OneShotOf 1) = 1 ∧
      s.proxy.delivered.countP (fun a => a.OneShotOf 1)
        ≤ s.triggered.countP (fun a => a.OneShotOf 1) := by
  obtain ⟨n, s, hrun, hcheck⟩ := @exists_spends_of_costWhen _ _ System.step KeepsAlarms
    (setsOneShot 1) (System.init 1000000000) noRebatch keepsAlarms_of_noRebatch sharedPass
    (fun n s => n = 1 ∧ s.proxy.delivered.countP (fun a => a.OneShotOf 1) = 1) (by decide +kernel)
  rw [decide_eq_true_eq] at hcheck
  obtain ⟨rfl, hdelivered⟩ := hcheck
  have hpos : (0 : ℤ) < 1000000000 := by decide
  exact ⟨s, (one_shot_once hpos 1 1 s).2 hrun, hdelivered,
    ((one_shot_once hpos 1 1 s).1 (hrun.mono fun _ _ _ => trivial)).1⟩

end TimeService
