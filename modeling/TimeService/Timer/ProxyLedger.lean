import TimeService.Timer.Proxy
import TimeService.Lib.Ledger

namespace TimeService

open Ledger

/-!
# Conservation and order of the proxied callbacks

Runs of the operations on the proxy table, and the ledger of the alarms that fire in them: every
fired alarm was delivered, is held, or was discarded.  `Accounts` connects the table to the
ledger, uid by uid:

* `Accounts.step`: every operation moves the ledger forward, so that the table follows it;
* `proxy_conservation`: the result over all runs.
-/

/-- An operation under `proxyMutex_`.  `deliver` is one round of the loop of
    `DeliverTimersLocked`, `removeProxy` the part of `StopTimer` and `DestroyTimer`. -/
inductive ProxyOp
  | deliver (alarm : TimerInfo)
  | proxyTimer (uid : ℤ) (isProxy needRetrigger : Bool)
  | resetAllProxy
  | removeProxy (timerNumber : ℕ) (uid : ℤ)
deriving DecidableEq, Repr

/-- The table and the alarms whose callback was invoked, in the order of the calls. -/
structure ProxyRun where
  table : ProxyTable
  delivered : List TimerInfo

/-- One operation. -/
def ProxyRun.step (r : ProxyRun) : ProxyOp → ProxyRun
  | .deliver alarm =>
    let after := r.table.deliverAlarm alarm
    ⟨after.1, r.delivered ++ after.2⟩
  | .proxyTimer uid isProxy needRetrigger =>
    let after := r.table.proxyTimer uid isProxy needRetrigger
    ⟨after.2.1, r.delivered ++ after.2.2⟩
  | .resetAllProxy =>
    let after := r.table.resetAllProxy
    ⟨after.2.1, r.delivered ++ after.2.2⟩
  | .removeProxy timerNumber uid => ⟨r.table.removeProxy timerNumber uid, r.delivered⟩

/-- A run of operations on the table of a new `TimerManager`. -/
def ProxyRun.run (ops : List ProxyOp) : ProxyRun := ops.foldl ProxyRun.step ⟨.empty, []⟩

/-! ### What an operation touches -/

/-- What is held after an operation was held before it, or is the alarm that fires. -/
theorem ProxyRun.mem_queue_step {r : ProxyRun} {op : ProxyOp} {uid : ℤ} {a : TimerInfo}
    (h : a ∈ (r.step op).table.queue uid) :
    a ∈ r.table.queue uid ∨ op = .deliver a := by
  cases op with
  | deliver alarm =>
    change a ∈ (r.table.deliverAlarm alarm).1.queue uid at h
    unfold ProxyTable.deliverAlarm at h
    split at h
    · rcases r.table.callbackAlarmIfNeed_cases alarm with ⟨_, heq⟩ | ⟨_, heq⟩
      · rw [heq] at h
        exact .inl h
      · rw [heq, ProxyTable.queue_insert] at h
        split at h
        · -- the queue of its uid has the alarm at its end
          rename_i huid
          subst huid
          rcases List.mem_append.mp h with h | h
          · exact .inl h
          · exact .inr (by rw [List.mem_singleton.mp h])
        · exact .inl h
    · exact .inl h
  | proxyTimer k isProxy needRetrigger =>
    left
    change a ∈ (r.table.proxyTimer k isProxy needRetrigger).2.1.queue uid at h
    have herase : ∀ uids, a ∈ ProxyTable.queue ⟨uids, r.table.proxyMap.erase k⟩ uid →
        a ∈ r.table.queue uid := by
      intro uids ha
      rw [ProxyTable.queue_erase] at ha
      split at ha
      · cases ha
      · exact ha
    unfold ProxyTable.proxyTimer at h
    split at h
    · exact h
    · split at h
      · simp only at h
        split at h
        · exact herase _ h
        · split at h
          · exact h
          · exact herase _ h
      · exact h
  | resetAllProxy => cases h
  | removeProxy timerNumber k =>
    left
    change a ∈ (r.table.removeProxy timerNumber k).queue uid at h
    unfold ProxyTable.removeProxy at h
    split at h
    · exact h
    · simp only at h
      split at h
      · rw [ProxyTable.queue_erase] at h
        split at h
        · cases h
        · exact h
      · exact h

/-- An operation invokes the callback of the alarm that fires, or of alarms that were held. -/
theorem ProxyRun.step_delivered (r : ProxyRun) (op : ProxyOp) :
    ∃ l, (r.step op).delivered = r.delivered ++ l ∧
      ∀ a ∈ l, (∃ uid, a ∈ r.table.queue uid) ∨ op = .deliver a := by
  cases op with
  | deliver alarm =>
    refine ⟨_, rfl, fun a ha => .inr ?_⟩
    unfold ProxyTable.deliverAlarm at ha
    split at ha
    · rcases r.table.callbackAlarmIfNeed_cases alarm with ⟨_, heq⟩ | ⟨_, heq⟩
      · rw [heq] at ha
        rw [List.mem_singleton.mp ha]
      · rw [heq] at ha
        cases ha
    · cases ha
  | proxyTimer k isProxy needRetrigger =>
    refine ⟨_, rfl, fun a ha => .inl ⟨k, ?_⟩⟩
    unfold ProxyTable.proxyTimer at ha
    split at ha
    · cases ha
    · split at ha
      · simp only at ha
        split at ha
        · cases ha
        · split at ha
          · cases ha
          · rename_i hlookup
            unfold ProxyTable.queue
            rw [hlookup]
            exact List.mem_of_mem_filter ha
      · cases ha
  | resetAllProxy =>
    refine ⟨_, rfl, fun a ha => .inl ?_⟩
    obtain ⟨uid, _, ha⟩ := List.mem_flatMap.mp ha
    exact ⟨uid, List.mem_of_mem_filter ha⟩
  | removeProxy timerNumber k => exact ⟨[], (List.append_nil _).symm, by simp⟩

/-! ### The ledger of a run -/

/-- The alarm that an operation fires: `DeliverTimersLocked` passes over empty callbacks. -/
def ProxyOp.fired : ProxyOp → Option TimerInfo
  | .deliver alarm => if alarm.callback.isSome then some alarm else none
  | _ => none

/-- The alarms that fire in a run, in order. -/
def firedAlarms (ops : List ProxyOp) : List TimerInfo := ops.filterMap ProxyOp.fired

/-- The operation may discard `alarm`: the proxy of its uid ends without retrigger, or its own
    timer is stopped. -/
def ProxyOp.Discards (op : ProxyOp) (alarm : TimerInfo) : Prop :=
  op = .proxyTimer alarm.uid false false ∨ ∃ uid, op = .removeProxy alarm.id uid

/-- The fired alarms with their fates; a discarded alarm names the position of the operation that
    discarded it. -/
abbrev AlarmLedger := List (TimerInfo × Fate ℕ)

/-- The ledger accounts for a run. -/
structure Accounts (ops : List ProxyOp) (r : ProxyRun) (ledger : AlarmLedger) : Prop where
  wf : r.table.WF
  fired : ledger.map Prod.fst = firedAlarms ops
  delivered : ∀ uid, r.delivered.filter (fun a => a.uid = uid)
    = deliveredOf TimerInfo.uid uid ledger
  held : ∀ uid, r.table.queue uid = heldOf TimerInfo.uid uid ledger
  inOrder : InOrder TimerInfo.uid ledger
  discarded : ∀ i a n, ledger[i]? = some (a, .discarded n) →
    i < (firedAlarms (ops.take n)).length ∧ ∃ op, ops[n]? = some op ∧ op.Discards a

theorem firedAlarms_append (ops : List ProxyOp) (op : ProxyOp) :
    firedAlarms (ops ++ [op]) = firedAlarms ops ++ op.fired.toList := by
  unfold firedAlarms
  rw [List.filterMap_append]
  cases h : op.fired <;> simp [h]

/-- What was discarded before stays accounted for when the run goes on. -/
private theorem discarded_mono {ops : List ProxyOp} {op : ProxyOp} {i n : ℕ} {a : TimerInfo}
    (h : i < (firedAlarms (ops.take n)).length ∧ ∃ op, ops[n]? = some op ∧ op.Discards a) :
    i < (firedAlarms ((ops ++ [op]).take n)).length ∧
      ∃ op', (ops ++ [op])[n]? = some op' ∧ op'.Discards a := by
  obtain ⟨hi, op', hop', hdis⟩ := h
  obtain ⟨hn, _⟩ := List.getElem?_eq_some_iff.mp hop'
  refine ⟨?_, op', ?_, hdis⟩
  · rwa [List.take_append_of_le_length (by omega)]
  · rwa [List.getElem?_append_left hn]

/-- An operation that settles held alarms and fires none: the ledger is settled in the same way.
    A discarding operation must be one that discards what it settles. -/
private theorem Accounts.settle {ops : List ProxyOp} {r r' : ProxyRun} {ledger : AlarmLedger}
    (h : Accounts ops r ledger) {op : ProxyOp} (hfired : op.fired = none) (select : ℤ → Bool)
    (fate : Fate ℕ) (hfate : fate.isHeld = false) (hwf : r'.table.WF)
    (hqueue : ∀ uid, r'.table.queue uid = if select uid then [] else r.table.queue uid)
    (hdelivered : ∀ uid, r'.delivered.filter (fun a => a.uid = uid)
      = deliveredOf TimerInfo.uid uid (Ledger.settle TimerInfo.uid select fate ledger))
    (hdiscarded : ∀ n, fate = .discarded n → n = ops.length ∧
      ∀ uid, select uid = true → ∀ a ∈ r.table.queue uid, op.Discards a) :
    Accounts (ops ++ [op]) r' (Ledger.settle TimerInfo.uid select fate ledger) where
  wf := hwf
  fired := by
    rw [settle_map_fst, h.fired, firedAlarms_append, hfired]
    simp
  delivered := hdelivered
  held uid := by rw [hqueue, heldOf_settle hfate, h.held]
  inOrder := h.inOrder.settle select hfate
  discarded i a n hi := by
    rcases getElem?_settle hi with hold | ⟨hnew, hheld, hsel⟩
    · exact discarded_mono (h.discarded i a n hold)
    · -- what is discarded now was held, so it is in the queue that `op` discards
      obtain ⟨rfl, hdis⟩ := hdiscarded n hnew.symm
      have hmem : a ∈ r.table.queue a.uid := by
        rw [h.held, mem_heldOf]
        exact ⟨List.mem_of_getElem? hheld, rfl⟩
      refine ⟨?_, op, by simp, hdis a.uid hsel a hmem⟩
      rw [List.take_left', ← h.fired, List.length_map]
      · exact (List.getElem?_eq_some_iff.mp hheld).1
      · rfl

/-- An operation that changes no queue, delivers nothing and fires nothing. -/
private theorem Accounts.idle {ops : List ProxyOp} {r r' : ProxyRun} {ledger : AlarmLedger}
    (h : Accounts ops r ledger) {op : ProxyOp} (hfired : op.fired = none) (hwf : r'.table.WF)
    (hqueue : ∀ uid, r'.table.queue uid = r.table.queue uid)
    (hdelivered : r'.delivered = r.delivered) : Accounts (ops ++ [op]) r' ledger where
  wf := hwf
  fired := by
    rw [h.fired, firedAlarms_append, hfired]
    simp
  delivered uid := by rw [hdelivered, h.delivered]
  held uid := by rw [hqueue, h.held]
  inOrder := h.inOrder
  discarded i a n hi := discarded_mono (h.discarded i a n hi)

/-- Firing an alarm puts it at the end of the ledger. -/
private theorem Accounts.fire {ops : List ProxyOp} {r r' : ProxyRun} {ledger : AlarmLedger}
    (h : Accounts ops r ledger) {alarm : TimerInfo} (hcallback : alarm.callback.isSome = true)
    (fate : Fate ℕ) (hfate : ∀ n, fate ≠ .discarded n) (hwf : r'.table.WF)
    (hqueue : ∀ uid, r'.table.queue uid
      = r.table.queue uid ++ if fate.isHeld && alarm.uid = uid then [alarm] else [])
    (hdelivered : r'.delivered = r.delivered ++ if fate.isDelivered then [alarm] else [])
    (hheld : fate.isDelivered = true → r.table.queue alarm.uid = []) :
    Accounts (ops ++ [.deliver alarm]) r' (ledger ++ [(alarm, fate)]) where
  wf := hwf
  fired := by
    rw [List.map_append, h.fired, firedAlarms_append]
    simp [ProxyOp.fired, hcallback]
  delivered uid := by
    rw [hdelivered, List.filter_append, h.delivered, deliveredOf_append]
    congr 1
    by_cases hd : fate.isDelivered = true <;> by_cases hu : alarm.uid = uid <;>
      simp [deliveredOf, hd, hu]
  held uid := by
    rw [hqueue, h.held, heldOf_append, heldOf_cons]
    simp [heldOf]
  inOrder := h.inOrder.append fun hd => by rw [← h.held]; exact hheld hd
  discarded i a n hi := by
    rw [List.getElem?_append] at hi
    split at hi
    · exact discarded_mono (h.discarded i a n hi)
    · rw [List.getElem?_singleton] at hi
      split at hi
      · cases hi
        exact absurd rfl (hfate n)
      · cases hi

/-- A fired alarm is delivered or held. -/
private theorem Accounts.deliver {ops : List ProxyOp} {r : ProxyRun} {ledger : AlarmLedger}
    (h : Accounts ops r ledger) (alarm : TimerInfo) :
    ∃ ledger', Accounts (ops ++ [.deliver alarm]) (r.step (.deliver alarm)) ledger' := by
  by_cases hcallback : alarm.callback.isSome = true
  · have hstep : r.step (.deliver alarm) = ⟨(r.table.callbackAlarmIfNeed alarm).1,
        r.delivered ++ (r.table.callbackAlarmIfNeed alarm).2⟩ := by
      simp [ProxyRun.step, ProxyTable.deliverAlarm, hcallback]
    rw [hstep]
    rcases r.table.callbackAlarmIfNeed_cases alarm with ⟨hnot, heq⟩ | ⟨hproxied, heq⟩
    · rw [heq]
      refine ⟨_, h.fire hcallback .delivered (by simp) h.wf ?_ ?_ ?_⟩
      · intro uid
        simp
      · simp
      · exact fun _ => h.wf.queue_of_not_proxied hnot
    · rw [heq]
      refine ⟨_, h.fire hcallback .held (by simp) (h.wf.insert hproxied hcallback) ?_ ?_ (by simp)⟩
      · intro uid
        rw [ProxyTable.queue_insert]
        by_cases hu : uid = alarm.uid
        · subst hu
          simp
        · have hu' : alarm.uid ≠ uid := fun heq => hu heq.symm
          simp [hu, hu']
      · simp
  · have hfired : (ProxyOp.deliver alarm).fired = none := by simp [ProxyOp.fired, hcallback]
    have hstep : r.step (.deliver alarm) = r := by
      simp [ProxyRun.step, ProxyTable.deliverAlarm, hcallback]
    rw [hstep]
    exact ⟨ledger, h.idle hfired h.wf (fun _ => rfl) rfl⟩

/-- Ending a proxy releases or discards the queue of its uid. -/
private theorem Accounts.endProxy {ops : List ProxyOp} {r : ProxyRun} {ledger : AlarmLedger}
    (h : Accounts ops r ledger) {uid : ℤ} (hproxied : uid ∈ r.table.proxyUids)
    (needRetrigger : Bool) :
    ∃ ledger', Accounts (ops ++ [.proxyTimer uid false needRetrigger])
      (r.step (.proxyTimer uid false needRetrigger)) ledger' := by
  obtain ⟨hwf, hqueue, hinvoked⟩ := ProxyTable.proxyTimer_end h.wf hproxied needRetrigger
  have hdelivered : (r.step (.proxyTimer uid false needRetrigger)).delivered
      = r.delivered ++ if needRetrigger then r.table.queue uid else [] := by
    rw [← hinvoked]
    rfl
  cases needRetrigger with
  | true =>
    refine ⟨_, h.settle rfl (fun k => k = uid) .delivered rfl hwf
      (fun k => by simpa [ProxyRun.step] using hqueue k) (fun k => ?_) (by simp)⟩
    rw [deliveredOf_settle_delivered h.inOrder, ← h.delivered, ← h.held, hdelivered, if_pos rfl,
      List.filter_append]
    by_cases hk : k = uid
    · subst hk
      have hall : (r.table.queue k).filter (fun a => a.uid = k) = r.table.queue k :=
        List.filter_eq_self.mpr fun a ha => by simpa using h.wf.uid_eq k a ha
      simp [hall]
    · have hnone : (r.table.queue uid).filter (fun a => a.uid = k) = [] := by
        apply List.filter_eq_nil_iff.mpr
        intro a ha
        rw [h.wf.uid_eq uid a ha]
        simpa using fun heq : uid = k => hk heq.symm
      simp [hnone, hk]
  | false =>
    refine ⟨_, h.settle rfl (fun k => k = uid) (.discarded ops.length) rfl hwf
      (fun k => by simpa [ProxyRun.step] using hqueue k) (fun k => ?_) ?_⟩
    · rw [deliveredOf_settle_discarded, ← h.delivered, hdelivered]
      simp
    · rintro n hn
      refine ⟨by injection hn with hn; exact hn.symm, fun k hk a ha => ?_⟩
      obtain rfl : k = uid := by simpa using hk
      rw [← h.wf.uid_eq k a ha]
      exact .inl rfl

/-- **One operation.** Whatever the operation, the ledger of the run so far can be carried on. -/
theorem Accounts.step {ops : List ProxyOp} {r : ProxyRun} {ledger : AlarmLedger}
    (h : Accounts ops r ledger) (op : ProxyOp) :
    ∃ ledger', Accounts (ops ++ [op]) (r.step op) ledger' := by
  cases op with
  | deliver alarm => exact h.deliver alarm
  | proxyTimer uid isProxy needRetrigger =>
    cases isProxy with
    | true =>
      refine ⟨ledger, h.idle rfl (ProxyTable.proxyTimer_start_wf h.wf uid needRetrigger)
        (fun _ => rfl) ?_⟩
      simp [ProxyRun.step, ProxyTable.proxyTimer]
    | false =>
      by_cases hproxied : uid ∈ r.table.proxyUids
      · exact h.endProxy hproxied needRetrigger
      · have hstep : r.step (.proxyTimer uid false needRetrigger) = r := by
          simp [ProxyRun.step, ProxyTable.proxyTimer_not_proxied hproxied]
        rw [hstep]
        exact ⟨ledger, h.idle rfl h.wf (fun _ => rfl) rfl⟩
  | resetAllProxy =>
    -- every key is settled as delivered
    refine ⟨_, h.settle rfl (fun _ => true) .delivered rfl ProxyTable.empty_wf (fun _ => rfl)
      (fun k => ?_) (by simp)⟩
    rw [deliveredOf_settle_delivered h.inOrder, ← h.delivered, ← h.held, if_pos rfl]
    show (r.delivered ++ r.table.resetAllProxy.2.2).filter _ = _
    rw [List.filter_append, ProxyTable.resetAllProxy_filter h.wf]
  | removeProxy timerNumber uid =>
    rcases ProxyTable.removeProxy_cases h.wf timerNumber uid with ⟨hall, hwf, hqueue⟩ | ⟨_, heq⟩
    · refine ⟨_, h.settle rfl (fun k => k = uid) (.discarded ops.length) rfl hwf
        (fun k => by simpa [ProxyRun.step] using hqueue k) (fun k => ?_) ?_⟩
      · rw [deliveredOf_settle_discarded, ← h.delivered]
        rfl
      · rintro n hn
        refine ⟨by injection hn with hn; exact hn.symm, fun k hk a ha => ?_⟩
        obtain rfl : k = uid := by simpa using hk
        exact .inr ⟨k, by rw [hall a ha]⟩
    · -- another timer is held for the uid too: nothing is discarded
      have hstep : r.step (.removeProxy timerNumber uid) = r := by
        simp [ProxyRun.step, heq]
      rw [hstep]
      exact ⟨ledger, h.idle rfl h.wf (fun _ => rfl) rfl⟩

/-- Every run has a ledger that accounts for it. -/
theorem exists_accounts (ops : List ProxyOp) :
    ∃ ledger, Accounts ops (ProxyRun.run ops) ledger := by
  -- on the run from its end: one operation more carries the ledger on
  induction ops using List.reverseRecOn with
  | nil => exact ⟨[], ⟨ProxyTable.empty_wf, rfl, by simp [ProxyRun.run, deliveredOf],
      by simp [ProxyRun.run, heldOf], List.Pairwise.nil, by simp⟩⟩
  | append_singleton ops op ih =>
    obtain ⟨ledger, h⟩ := ih
    rw [ProxyRun.run, List.foldl_append]
    exact h.step op

theorem ProxyRun.run_step (ops : List ProxyOp) (op : ProxyOp) :
    (ProxyRun.run ops).step op = ProxyRun.run (ops ++ [op]) := by
  rw [ProxyRun.run, ProxyRun.run, List.foldl_append]
  rfl

/-- Every run keeps the representation invariant of the table. -/
theorem ProxyRun.run_wf (ops : List ProxyOp) : (ProxyRun.run ops).table.WF := by
  obtain ⟨_, h⟩ := exists_accounts ops
  exact h.wf

/-- **Conservation and order.** After every run of firings, proxy switches, resets and removals the
    keys of the map are proxied and hold non-empty queues of their own alarms, and the fired
    alarms have a ledger: uid by uid the callbacks invoked are the delivered ones and the queue
    the held ones, both in the order of firing, and a discarded alarm had fired before the
    operation that discarded it, one that ends the proxy of its uid without retrigger or stops
    its own timer. -/
theorem proxy_conservation (ops : List ProxyOp) :
    (∀ uid ∈ (ProxyRun.run ops).table.proxyMap,
      uid ∈ (ProxyRun.run ops).table.proxyUids ∧
      (ProxyRun.run ops).table.queue uid ≠ [] ∧
      ∀ a ∈ (ProxyRun.run ops).table.queue uid, a.uid = uid) ∧
    ∃ ledger : AlarmLedger,
      ledger.map Prod.fst = firedAlarms ops ∧
      (∀ uid, (ProxyRun.run ops).delivered.filter (fun a => a.uid = uid)
        = deliveredOf TimerInfo.uid uid ledger) ∧
      (∀ uid, (ProxyRun.run ops).table.queue uid = heldOf TimerInfo.uid uid ledger) ∧
      ∀ i a n, ledger[i]? = some (a, .discarded n) →
        i < (firedAlarms (ops.take n)).length ∧ ∃ op, ops[n]? = some op ∧ op.Discards a := by
  obtain ⟨ledger, h⟩ := exists_accounts ops
  refine ⟨fun uid hmem => ?_, ledger, h.fired, h.delivered, h.held, h.discarded⟩
  exact ⟨h.wf.mem_proxyUids uid hmem, h.wf.queue_ne_nil uid hmem, h.wf.uid_eq uid⟩

end TimeService
