import TimeService.Timer.Info
import Mathlib.Data.Finset.Basic
import Mathlib.Data.List.AList
import Mathlib.Data.List.Sort

namespace TimeService

/-!
# The proxy table: the state under `proxyMutex_`

`proxyUids_`, the uids whose callbacks are held back, and `proxyMap_`, the fired alarms of each
of them.  The operations answer, beside the new table, the alarms whose callback they invoke,
in the order of the calls.

`ProxyTable.WF` is the representation invariant, and `ProxyTable.queue` the view in which each
operation has a one-line meaning.
-/

/-- `proxyUids_` and `proxyMap_`. -/
structure ProxyTable where
  proxyUids : Finset ℤ
  proxyMap : AList fun _ : ℤ => List TimerInfo

/-- The table of a new `TimerManager`. -/
def ProxyTable.empty : ProxyTable where
  proxyUids := ∅
  proxyMap := ∅

/-- The alarms held for a uid. -/
def ProxyTable.queue (t : ProxyTable) (uid : ℤ) : List TimerInfo := (t.proxyMap.lookup uid).getD []

/-- `TimerManager::CallbackAlarmIfNeed`. -/
def ProxyTable.callbackAlarmIfNeed (t : ProxyTable) (alarm : TimerInfo) :
    ProxyTable × List TimerInfo :=
  if alarm.uid ∉ t.proxyUids then (t, [alarm])
  else
    match t.proxyMap.lookup alarm.uid with
    | none => ({ t with proxyMap := t.proxyMap.insert alarm.uid [alarm] }, [])
    | some timeInfoVec =>
      ({ t with proxyMap := t.proxyMap.insert alarm.uid (timeInfoVec ++ [alarm]) }, [])

/-- The body of the loop of `TimerManager::DeliverTimersLocked`. -/
def ProxyTable.deliverAlarm (t : ProxyTable) (alarm : TimerInfo) : ProxyTable × List TimerInfo :=
  if alarm.callback.isSome then t.callbackAlarmIfNeed alarm else (t, [])

/-- The loop that `ProxyTimer` and `ResetAllProxy` share: alarms without callback are skipped. -/
def retrigger (timeInfoVec : List TimerInfo) : List TimerInfo :=
  timeInfoVec.filter fun alarm => alarm.callback.isSome

/-- `TimerManager::ProxyTimer`. -/
def ProxyTable.proxyTimer (t : ProxyTable) (uid : ℤ) (isProxy needRetrigger : Bool) :
    Bool × ProxyTable × List TimerInfo :=
  if isProxy then (true, { t with proxyUids := insert uid t.proxyUids }, [])
  else if uid ∈ t.proxyUids then
    let t := { t with proxyUids := t.proxyUids.erase uid }
    if !needRetrigger then (true, { t with proxyMap := t.proxyMap.erase uid }, [])
    else
      match t.proxyMap.lookup uid with
      | none => (true, t, [])
      | some timeInfoVec =>
        (true, { t with proxyMap := t.proxyMap.erase uid }, retrigger timeInfoVec)
  else (false, t, [])

/-- The keys of `proxyMap_` in the order of the map. -/
def ProxyTable.keys (t : ProxyTable) : List ℤ := t.proxyMap.keys.insertionSort (· ≤ ·)

/-- `TimerManager::ResetAllProxy`. -/
def ProxyTable.resetAllProxy (t : ProxyTable) : Bool × ProxyTable × List TimerInfo :=
  (true, .empty, t.keys.flatMap fun uid => retrigger (t.queue uid))

/-- `TimerManager::RemoveProxy`. -/
def ProxyTable.removeProxy (t : ProxyTable) (timerNumber : ℕ) (uid : ℤ) : ProxyTable :=
  match t.proxyMap.lookup uid with
  | none => t
  | some itMap =>
    -- a copy of the queue: what is erased from it is not erased from the map
    let alarms := itMap.filter fun alarm => alarm.id ≠ timerNumber
    if alarms.isEmpty then { t with proxyMap := t.proxyMap.erase uid } else t

/-! ### Queues -/

theorem ProxyTable.lookup_of_queue_ne_nil {t : ProxyTable} {uid : ℤ} (h : t.queue uid ≠ []) :
    t.proxyMap.lookup uid = some (t.queue uid) := by
  unfold queue at h ⊢
  cases hl : t.proxyMap.lookup uid with
  | none => simp [hl] at h
  | some q => rfl

theorem ProxyTable.queue_of_not_mem {t : ProxyTable} {uid : ℤ} (h : uid ∉ t.proxyMap) :
    t.queue uid = [] := by
  rw [queue, AList.lookup_eq_none.mpr h, Option.getD_none]

@[simp] theorem ProxyTable.queue_empty (uid : ℤ) : ProxyTable.empty.queue uid = [] := rfl

@[simp] theorem ProxyTable.queue_insert (uids : Finset ℤ) (map : AList fun _ : ℤ => List TimerInfo)
    (k uid : ℤ) (q : List TimerInfo) :
    ProxyTable.queue ⟨uids, map.insert k q⟩ uid
      = if uid = k then q else ProxyTable.queue ⟨uids, map⟩ uid := by
  unfold queue
  split
  · rename_i h
    subst h
    simp
  · rename_i h
    simp [AList.lookup_insert_ne h]

@[simp] theorem ProxyTable.queue_erase (uids : Finset ℤ) (map : AList fun _ : ℤ => List TimerInfo)
    (k uid : ℤ) :
    ProxyTable.queue ⟨uids, map.erase k⟩ uid
      = if uid = k then [] else ProxyTable.queue ⟨uids, map⟩ uid := by
  unfold queue
  split
  · rename_i h
    subst h
    simp
  · rename_i h
    simp [AList.lookup_erase_ne h]

/-! ### The representation invariant -/

/-- Every key of `proxyMap_` is proxied and has a queue that is not empty, and a queue holds only
    alarms of its uid, all with a callback. -/
structure ProxyTable.WF (t : ProxyTable) : Prop where
  mem_proxyUids : ∀ uid ∈ t.proxyMap, uid ∈ t.proxyUids
  queue_ne_nil : ∀ uid ∈ t.proxyMap, t.queue uid ≠ []
  uid_eq : ∀ uid, ∀ a ∈ t.queue uid, a.uid = uid
  callback_isSome : ∀ uid, ∀ a ∈ t.queue uid, a.callback.isSome

theorem ProxyTable.empty_wf : ProxyTable.empty.WF where
  mem_proxyUids uid h := absurd h (AList.notMem_empty uid)
  queue_ne_nil uid h := absurd h (AList.notMem_empty uid)
  uid_eq uid a h := by simp at h
  callback_isSome uid a h := by simp at h

/-- A uid that is not proxied holds nothing. -/
theorem ProxyTable.WF.queue_of_not_proxied {t : ProxyTable} (h : t.WF) {uid : ℤ}
    (huid : uid ∉ t.proxyUids) : t.queue uid = [] :=
  ProxyTable.queue_of_not_mem fun hmem => huid (h.mem_proxyUids uid hmem)

theorem ProxyTable.WF.retrigger_queue {t : ProxyTable} (h : t.WF) (uid : ℤ) :
    retrigger (t.queue uid) = t.queue uid :=
  List.filter_eq_self.mpr (h.callback_isSome uid)

/-- Erasing the queue of a uid, proxied or not. -/
theorem ProxyTable.WF.erase {t : ProxyTable} (h : t.WF) {uids : Finset ℤ} {k : ℤ}
    (huids : ∀ uid ∈ t.proxyUids, uid ≠ k → uid ∈ uids) :
    ProxyTable.WF ⟨uids, t.proxyMap.erase k⟩ where
  mem_proxyUids uid hmem := by
    obtain ⟨hne, hmem⟩ := AList.mem_erase.mp hmem
    exact huids uid (h.mem_proxyUids uid hmem) hne
  queue_ne_nil uid hmem := by
    obtain ⟨hne, hmem⟩ := AList.mem_erase.mp hmem
    rw [queue_erase, if_neg hne]
    exact h.queue_ne_nil uid hmem
  uid_eq uid a ha := by
    rw [queue_erase] at ha
    split at ha
    · cases ha
    · exact h.uid_eq uid a ha
  callback_isSome uid a ha := by
    rw [queue_erase] at ha
    split at ha
    · cases ha
    · exact h.callback_isSome uid a ha

/-- Appending an alarm to the queue of its own proxied uid. -/
theorem ProxyTable.WF.insert {t : ProxyTable} (h : t.WF) {alarm : TimerInfo}
    (hproxied : alarm.uid ∈ t.proxyUids) (hcallback : alarm.callback.isSome) :
    ProxyTable.WF ⟨t.proxyUids, t.proxyMap.insert alarm.uid (t.queue alarm.uid ++ [alarm])⟩ where
  mem_proxyUids uid hmem := by
    rcases AList.mem_insert _ |>.mp hmem with rfl | hmem
    · exact hproxied
    · exact h.mem_proxyUids uid hmem
  queue_ne_nil uid hmem := by
    rw [queue_insert]
    split
    · simp
    · rename_i hne
      exact h.queue_ne_nil uid (((AList.mem_insert _).mp hmem).resolve_left hne)
  uid_eq uid a ha := by
    rw [queue_insert] at ha
    split at ha
    · rename_i heq
      subst heq
      rcases List.mem_append.mp ha with ha | ha
      · exact h.uid_eq _ a ha
      · rw [List.mem_singleton.mp ha]
    · exact h.uid_eq uid a ha
  callback_isSome uid a ha := by
    rw [queue_insert] at ha
    split at ha
    · rcases List.mem_append.mp ha with ha | ha
      · exact h.callback_isSome _ a ha
      · rwa [List.mem_singleton.mp ha]
    · exact h.callback_isSome uid a ha

/-! ### What the operations do -/

/-- **A fired alarm, by cases.** Its callback is invoked when its uid is not proxied, otherwise it
    goes to the end of the queue of its uid. -/
theorem ProxyTable.callbackAlarmIfNeed_cases (t : ProxyTable) (alarm : TimerInfo) :
    (alarm.uid ∉ t.proxyUids ∧ t.callbackAlarmIfNeed alarm = (t, [alarm])) ∨
    (alarm.uid ∈ t.proxyUids ∧ t.callbackAlarmIfNeed alarm
      = (⟨t.proxyUids, t.proxyMap.insert alarm.uid (t.queue alarm.uid ++ [alarm])⟩, [])) := by
  unfold callbackAlarmIfNeed
  split
  · left
    exact ⟨‹_›, rfl⟩
  · right
    refine ⟨not_not.mp ‹_›, ?_⟩
    unfold queue
    cases t.proxyMap.lookup alarm.uid <;> rfl

/-- What ending the proxy of a uid does: `needRetrigger` decides whether the queue is released
    or dropped. -/
theorem ProxyTable.proxyTimer_end {t : ProxyTable} (h : t.WF) {uid : ℤ}
    (hproxied : uid ∈ t.proxyUids) (needRetrigger : Bool) :
    (t.proxyTimer uid false needRetrigger).2.1.WF ∧
    (∀ k, (t.proxyTimer uid false needRetrigger).2.1.queue k
      = if k = uid then [] else t.queue k) ∧
    (t.proxyTimer uid false needRetrigger).2.2 = if needRetrigger then t.queue uid else [] := by
  have herase : ProxyTable.WF ⟨t.proxyUids.erase uid, t.proxyMap.erase uid⟩ :=
    h.erase fun k hk hne => Finset.mem_erase.mpr ⟨hne, hk⟩
  unfold proxyTimer
  rw [if_neg (by simp), if_pos hproxied]
  cases needRetrigger with
  | false => exact ⟨herase, fun k => queue_erase _ _ _ _, rfl⟩
  | true =>
    simp only [Bool.not_true, Bool.false_eq_true, if_false, if_true]
    by_cases hnil : t.queue uid = []
    · -- nothing is held: the map stays as it is
      have hmem : uid ∉ t.proxyMap := fun hmem => h.queue_ne_nil uid hmem hnil
      have hlookup := AList.lookup_eq_none.mpr hmem
      simp only [hlookup]
      refine ⟨⟨fun k hk => ?_, h.queue_ne_nil, h.uid_eq, h.callback_isSome⟩, fun k => ?_, hnil.symm⟩
      · exact Finset.mem_erase.mpr ⟨fun heq => hmem (heq ▸ hk), h.mem_proxyUids k hk⟩
      · split
        · rename_i heq
          rw [heq]
          exact hnil
        · rfl
    · have hlookup := lookup_of_queue_ne_nil hnil
      simp only [hlookup]
      exact ⟨herase, fun k => queue_erase _ _ _ _, h.retrigger_queue uid⟩

/-- `ProxyTimer` on a uid that is not proxied does nothing. -/
theorem ProxyTable.proxyTimer_not_proxied {t : ProxyTable} {uid : ℤ} (hproxied : uid ∉ t.proxyUids)
    (needRetrigger : Bool) : t.proxyTimer uid false needRetrigger = (false, t, []) := by
  unfold proxyTimer
  rw [if_neg (by simp), if_neg hproxied]

/-- Starting a proxy holds nothing and invokes nothing. -/
theorem ProxyTable.proxyTimer_start_wf {t : ProxyTable} (h : t.WF) (uid : ℤ)
    (needRetrigger : Bool) : (t.proxyTimer uid true needRetrigger).2.1.WF :=
  ⟨fun k hk => Finset.mem_insert_of_mem (h.mem_proxyUids k hk), h.queue_ne_nil, h.uid_eq,
    h.callback_isSome⟩

/-- **Removal from the proxy, by cases.** The queue of the uid goes when all its alarms are of the
    id that is removed; otherwise nothing changes. -/
theorem ProxyTable.removeProxy_cases {t : ProxyTable} (h : t.WF) (timerNumber : ℕ) (uid : ℤ) :
    ((∀ a ∈ t.queue uid, a.id = timerNumber) ∧ (t.removeProxy timerNumber uid).WF ∧
      ∀ k, (t.removeProxy timerNumber uid).queue k = if k = uid then [] else t.queue k) ∨
    ((∃ a ∈ t.queue uid, a.id ≠ timerNumber) ∧ t.removeProxy timerNumber uid = t) := by
  unfold removeProxy
  by_cases hnil : t.queue uid = []
  · have hmem : uid ∉ t.proxyMap := fun hmem => h.queue_ne_nil uid hmem hnil
    have hlookup := AList.lookup_eq_none.mpr hmem
    left
    simp only [hlookup]
    refine ⟨by simp [hnil], h, fun k => ?_⟩
    split
    · rename_i heq
      rw [heq]
      exact hnil
    · rfl
  · have hlookup := lookup_of_queue_ne_nil hnil
    simp only [hlookup]
    -- only an emptied copy of the queue has an effect
    split
    · rename_i hempty
      rw [List.isEmpty_iff, List.filter_eq_nil_iff] at hempty
      left
      refine ⟨fun a ha => by simpa using hempty a ha, ?_, fun k => queue_erase _ _ _ _⟩
      exact h.erase fun k hk _ => hk
    · rename_i hkept
      rw [List.isEmpty_iff, List.filter_eq_nil_iff] at hkept
      right
      push Not at hkept
      obtain ⟨a, ha, hid⟩ := hkept
      exact ⟨⟨a, ha, by simpa using hid⟩, rfl⟩

/-- The alarms of one uid that `ResetAllProxy` releases are its queue. -/
theorem ProxyTable.resetAllProxy_filter {t : ProxyTable} (h : t.WF) (uid : ℤ) :
    t.resetAllProxy.2.2.filter (fun a => a.uid = uid) = t.queue uid := by
  have hqueue : ∀ k, (retrigger (t.queue k)).filter (fun a => a.uid = uid)
      = if k = uid then t.queue uid else [] := by
    intro k
    rw [h.retrigger_queue]
    split
    · rename_i heq
      subst heq
      exact List.filter_eq_self.mpr fun a ha => by simpa using h.uid_eq k a ha
    · rename_i hne
      apply List.filter_eq_nil_iff.mpr
      intro a ha
      rw [h.uid_eq k a ha]
      simpa using hne
  -- the loop over the keys comes by each uid once
  have hloop : ∀ keys : List ℤ, keys.Nodup →
      (keys.flatMap fun k => retrigger (t.queue k)).filter (fun a => a.uid = uid)
        = if uid ∈ keys then t.queue uid else [] := by
    intro keys
    induction keys with
    | nil => simp
    | cons k keys ih =>
      intro hnodup
      obtain ⟨hnot, hnodup⟩ := List.nodup_cons.mp hnodup
      rw [List.flatMap_cons, List.filter_append, hqueue, ih hnodup]
      by_cases hk : k = uid
      · subst hk
        simp [hnot]
      · have hk' : uid ≠ k := fun heq => hk heq.symm
        simp [hk, hk']
  have hnodup : t.keys.Nodup :=
    (List.perm_insertionSort (· ≤ ·) t.proxyMap.keys).nodup_iff.mpr t.proxyMap.keys_nodup
  show (t.keys.flatMap fun k => retrigger (t.queue k)).filter (fun a => a.uid = uid) = _
  rw [hloop t.keys hnodup]
  split
  · rfl
  · rename_i hnot
    refine (queue_of_not_mem fun hmem => hnot ?_).symm
    exact (List.perm_insertionSort (· ≤ ·) t.proxyMap.keys).mem_iff.mpr (AList.mem_keys.mp hmem)

end TimeService
