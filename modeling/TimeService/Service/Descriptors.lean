import TimeService.Lib.Budget
import TimeService.Lib.Handles
import TimeService.Ntp.SntpClient
import TimeService.Service.SystemTime

namespace TimeService

open Handles Transition

/-!
# The descriptors of the service

The functions that hold descriptors: `TimerHandler::Create` and its destructor, `set_rtc_time`, and
`RequestTime` of the SNTP client.  They share the descriptor table of the process with whatever else
runs in it, and with each other over the whole life of the service.

* `handler_create_balanced`: `TimerHandler::Create` opens the descriptors of its handler, each of
  them once, or leaves the table as it was, at whatever call it fails;
* `descriptors_lost`: `RequestTime` closes its socket only after a failed `send` or `recv`.  Over a
  run, as many descriptors are gone for good as there were other calls that got a socket; when
  nothing is left, the network time is never refreshed again, and no call of `SetTime` succeeds.
-/

/-- A call that answers with a new descriptor; `ok` is whether the kernel serves it, given that
    there is one. -/
def allocIf (ok : Bool) (t : Table) : Option (ℕ × Table) := if ok then t.alloc else none

/-! ### The timer handler -/

/-- `N_TIMER_FDS`. -/
def nTimerFds : ℕ := 6

/-- What `TimerHandler::Create` meets: whether the kernel serves its calls. -/
structure HandlerEnv where
  epollCreate : Bool
  timerfdCreate : ℕ → Bool
  epollCtl : ℕ → Bool
  timerfdSettime : Bool

/-- The descriptors of a `TimerHandler`. -/
structure HandlerFds where
  fds : List ℕ
  epollFd : ℕ
deriving DecidableEq, Repr

/-- Both members. -/
def HandlerFds.all (handler : HandlerFds) : List ℕ := handler.epollFd :: handler.fds

/-- `TimerHandler::~TimerHandler`. -/
def HandlerFds.destroy (handler : HandlerFds) (t : Table) : Table :=
  (t.closeAll handler.fds).close handler.epollFd

/-- The loop of `TimerHandler::Create` over `timerfd_create`, with what is left of it and the
    descriptors so far. -/
def createTimerFds (timerfdCreate : ℕ → Bool) (epollFd : ℕ) :
    ℕ → List ℕ → Table → Option (List ℕ) × Table
  | 0, fds, t => (some fds, t)
  | n + 1, fds, t =>
    match allocIf (timerfdCreate fds.length) t with
    | none => (none, (t.close epollFd).closeAll fds)
    | some (fd, t) => createTimerFds timerfdCreate epollFd n (fds ++ [fd]) t

/-- `TimerHandler::Create`. -/
def HandlerFds.create (env : HandlerEnv) (t : Table) : Option HandlerFds × Table :=
  match allocIf env.epollCreate t with
  | none => (none, t)
  | some (epollFd, t) =>
    match createTimerFds env.timerfdCreate epollFd nTimerFds [] t with
    | (none, t) => (none, t)
    | (some fds, t) =>
      let handler : HandlerFds := ⟨fds, epollFd⟩
      if (List.range nTimerFds).all env.epollCtl && env.timerfdSettime then (some handler, t)
      -- the last reference to the handler goes out of scope
      else (none, handler.destroy t)

theorem allocIf_eq_some {ok : Bool} {t : Table} {r : ℕ × Table} (h : allocIf ok t = some r) :
    t.alloc = some r := by
  unfold allocIf at h
  split at h
  · exact h
  · cases h

/-- **The loop.** It adds descriptors to those it has, or closes all of them. -/
theorem createTimerFds_spec (timerfdCreate : ℕ → Bool) {epollFd : ℕ} {t₀ : Table} (n : ℕ) :
    ∀ (fds : List ℕ) (t : Table), Opened t₀ (epollFd :: fds) t →
      (∃ fds' t', createTimerFds timerfdCreate epollFd n fds t = (some fds', t') ∧
        fds'.length = fds.length + n ∧ Opened t₀ (epollFd :: fds') t') ∨
      createTimerFds timerfdCreate epollFd n fds t = (none, t₀) := by
  induction n with
  | zero => exact fun fds t hopened => .inl ⟨fds, t, rfl, rfl, hopened⟩
  | succ n ih =>
    intro fds t hopened
    unfold createTimerFds
    cases halloc : allocIf (timerfdCreate fds.length) t with
    | none =>
      have hclosed : t.closeAll (epollFd :: fds) = t₀ := hopened.closeAll fun _ => Iff.rfl
      exact .inr (congrArg (Prod.mk none) hclosed)
    | some r =>
      obtain ⟨fd, t'⟩ := r
      have hmore : Opened t₀ (epollFd :: (fds ++ [fd])) t' := hopened.alloc (allocIf_eq_some halloc)
      rcases ih (fds ++ [fd]) t' hmore with ⟨fds', t'', heq, hlength, hopened'⟩ | heq
      · refine .inl ⟨fds', t'', heq, ?_, hopened'⟩
        rw [hlength, List.length_append, List.length_singleton]
        omega
      · exact .inr heq

/-- The destructor closes what was opened for the handler. -/
theorem HandlerFds.destroy_eq {t₀ t : Table} (handler : HandlerFds) (h : Opened t₀ handler.all t) :
    handler.destroy t = t₀ := by
  have hclosed : t.closeAll (handler.fds ++ [handler.epollFd]) = t₀ := by
    apply h.closeAll
    intro fd
    show fd ∈ handler.fds ++ [handler.epollFd] ↔ fd ∈ handler.epollFd :: handler.fds
    rw [List.mem_append, List.mem_singleton, List.mem_cons, or_comm]
  rw [← hclosed]
  show _ = (handler.fds ++ [handler.epollFd]).foldl Table.close t
  rw [List.foldl_append]
  rfl

/-- What `TimerHandler::Create` does to the table. -/
theorem handler_create_spec (env : HandlerEnv) (t : Table) :
    HandlerFds.create env t = (none, t) ∨
      ∃ handler t', HandlerFds.create env t = (some handler, t') ∧
        handler.all.length = nTimerFds + 1 ∧ Opened t handler.all t' := by
  unfold HandlerFds.create
  cases halloc : allocIf env.epollCreate t with
  | none => exact .inl rfl
  | some r =>
    obtain ⟨epollFd, t₁⟩ := r
    have hepoll : Opened t [epollFd] t₁ := (Opened.refl t).alloc (allocIf_eq_some halloc)
    rcases createTimerFds_spec env.timerfdCreate nTimerFds [] t₁ hepoll with
      ⟨fds, t₂, heq, hlength, hopened⟩ | heq
    · have hdestroy := HandlerFds.destroy_eq ⟨fds, epollFd⟩ hopened
      simp only [heq]
      split
      · exact .inr ⟨⟨fds, epollFd⟩, t₂, rfl, congrArg (· + 1) (by simpa using hlength), hopened⟩
      · exact .inl (congrArg (Prod.mk none) hdestroy)
    · simp only [heq]
      exact .inl trivial

/-- **Creating the timer handler.**  Whatever the kernel answers to its calls,
    `TimerHandler::Create` fails and leaves the table as it was, or gives a handler whose seven
    descriptors are what it has added to the table; its destructor then gives the table back. -/
theorem handler_create_balanced (env : HandlerEnv) (t : Table) :
    HandlerFds.create env t = (none, t) ∨
      ∃ handler t', HandlerFds.create env t = (some handler, t') ∧
        handler.all.length = nTimerFds + 1 ∧ Opened t handler.all t' ∧
        handler.destroy t' = t := by
  rcases handler_create_spec env t with hfailed | ⟨handler, t', heq, hlength, hopened⟩
  · exact .inl hfailed
  · exact .inr ⟨handler, t', heq, hlength, hopened, handler.destroy_eq hopened⟩

/-! ### The SNTP client and the RTC -/

/-- The exchange with the answer of `socket` that the table allows; `connect` refuses the descriptor
    -1. -/
def NtpExchange.on (x : NtpExchange) (t : Table) : NtpExchange :=
  match allocIf (0 ≤ x.socket) t with
  | none => { x with socket := -1, connect := -1 }
  | some (fd, _) => { x with socket := fd }

/-- The table after `SNTPClient::RequestTime`. -/
def requestTimeFds (x : NtpExchange) (t : Table) : Table :=
  if x.getaddrinfo ≠ 0 then t
  else
    match allocIf (0 ≤ x.socket) t with
    | none => t
    | some (fd, t') =>
      if fd = 0 then t'
      else if x.connect < 0 then t'
      else if x.send = -1 then t'.close fd
      else if x.datagram = none then t'.close fd
      else t'

/-- The RTC with the answer of `open` that the table allows. -/
def RtcDevice.on (rtc : RtcDevice) (t : Table) : RtcDevice :=
  match allocIf (0 ≤ rtc.fd) t with
  | none => { rtc with fd := -1 }
  | some (fd, _) => { rtc with fd := fd }

/-- The table after `TimeService::set_rtc_time`. -/
def setRtcTimeFds (rtc : RtcDevice) (t : Table) : Table :=
  if rtc.rtcId < 0 then t
  else
    match allocIf (0 ≤ rtc.fd) t with
    | none => t
    | some (fd, t') => t'.close fd

/-- What `SetTime` meets, with the RTC that the table allows. -/
def SetTimeEnv.on (env : SetTimeEnv) (t : Table) : SetTimeEnv := { env with rtc := env.rtc.on t }

/-! ### Runs -/

/-- The descriptors of the process, the timer handler, and the sockets that `RequestTime` has left
    open. -/
structure ServiceFds where
  table : Table
  handler : Option HandlerFds
  lost : Finset ℕ

/-- The descriptors of the timer handler. -/
def ServiceFds.handlerFds (s : ServiceFds) : Finset ℕ :=
  s.handler.elim ∅ fun handler => handler.all.toFinset

/-- What happens: others in the process open and close descriptors of theirs, the timer handler is
    created, the server is asked, the RTC is set. -/
inductive FdAction
  | others (inUse : Finset ℕ)
  | create (env : HandlerEnv)
  | requestTime (x : NtpExchange)
  | setRtcTime (rtc : RtcDevice)

/-- One step; `none` when the action is not enabled. -/
def ServiceFds.step (s : ServiceFds) : FdAction → Option ServiceFds
  | .others inUse =>
    if h : inUse ⊆ Finset.range s.table.limit ∧ s.lost ∪ s.handlerFds ⊆ inUse then
      some { s with table := ⟨s.table.limit, inUse, h.1⟩ }
    else none
  | .create env =>
    if s.handler = none then
      let r := HandlerFds.create env s.table
      some { s with table := r.2, handler := r.1 }
    else none
  | .requestTime x =>
    let table := requestTimeFds x s.table
    some { s with table, lost := s.lost ∪ (table.inUse \ s.table.inUse) }
  | .setRtcTime rtc => some { s with table := setRtcTimeFds rtc s.table }

/-- A service that holds nothing yet, in a process with this table. -/
def ServiceFds.start (t : Table) : ServiceFds := ⟨t, none, ∅⟩

/-- A call of `RequestTime` gets a socket, and neither `send` nor `recv` fails with it. -/
def NtpExchange.LosesSocket (x : NtpExchange) : Prop :=
  x.getaddrinfo = 0 ∧ 0 ≤ x.socket ∧
    (x.socket = 0 ∨ x.connect < 0 ∨ (x.send ≠ -1 ∧ x.datagram ≠ none))

instance (x : NtpExchange) : Decidable x.LosesSocket := inferInstanceAs (Decidable (_ ∧ _ ∧ _))

/-- Whether a step is such a call. -/
def losesSocket (s : ServiceFds) : FdAction → ℕ
  | .requestTime x => if (x.on s.table).LosesSocket then 1 else 0
  | _ => 0

/-- **The socket of `RequestTime`.**  It is closed again, or the call has lost it. -/
theorem requestTimeFds_spec (x : NtpExchange) (t : Table) :
    (¬ (x.on t).LosesSocket ∧ requestTimeFds x t = t) ∨
      ((x.on t).LosesSocket ∧ ∃ fd, Opened t [fd] (requestTimeFds x t)) := by
  unfold requestTimeFds NtpExchange.on NtpExchange.LosesSocket
  cases halloc : allocIf (0 ≤ x.socket) t with
  | none =>
    refine .inl ⟨fun hloses => ?_, ite_self t⟩
    have hneg : ¬ (0 : ℤ) ≤ -1 := by decide
    exact hneg hloses.2.1
  | some r =>
    obtain ⟨fd, t'⟩ := r
    have hopened : Opened t [fd] t' := (Opened.refl t).alloc (allocIf_eq_some halloc)
    have hclose : t'.close fd = t := Table.close_of_alloc (allocIf_eq_some halloc)
    have hsocket : (0 : ℤ) ≤ fd := Int.natCast_nonneg fd
    simp only [hsocket, true_and, Nat.cast_eq_zero, hclose]
    by_cases hresolved : x.getaddrinfo = 0
    · rw [if_neg (not_not.mpr hresolved)]
      split_ifs with hzero hconnect hsend hrecv
      · exact .inr ⟨⟨hresolved, .inl hzero⟩, fd, hopened⟩
      · exact .inr ⟨⟨hresolved, .inr (.inl hconnect)⟩, fd, hopened⟩
      · exact .inl ⟨by simp [hzero, hconnect, hsend], rfl⟩
      · exact .inl ⟨by simp [hzero, hconnect, hrecv], rfl⟩
      · exact .inr ⟨⟨hresolved, .inr (.inr ⟨hsend, hrecv⟩)⟩, fd, hopened⟩
    · rw [if_pos hresolved]
      exact .inl ⟨fun hloses => hresolved hloses.1, rfl⟩

/-- A call that is answered loses its socket. -/
theorem losesSocket_of_answered {x : NtpExchange} {t : Table}
    (h : requestTime (x.on t) ≠ none) : (x.on t).LosesSocket := by
  have hsocket : 0 ≤ (x.on t).socket ∨ (x.on t).connect < 0 := by
    unfold NtpExchange.on
    cases allocIf (0 ≤ x.socket) t with
    | none => exact .inr (show (-1 : ℤ) < 0 by decide)
    | some r => exact .inl (Int.natCast_nonneg r.1)
  unfold requestTime at h
  by_cases hresolved : (x.on t).getaddrinfo = 0
  · rw [if_neg (not_not.mpr hresolved)] at h
    split_ifs at h with hzero hconnect hsend
    · exact absurd rfl h
    · exact absurd rfl h
    · exact absurd rfl h
    · refine ⟨hresolved, hsocket.resolve_right hconnect, .inr (.inr ⟨hsend, fun hnone => ?_⟩)⟩
      rw [hnone] at h
      exact absurd rfl h
  · rw [if_pos hresolved] at h
    exact absurd rfl h

/-- `set_rtc_time` closes what it opens. -/
theorem setRtcTimeFds_eq (rtc : RtcDevice) (t : Table) : setRtcTimeFds rtc t = t := by
  unfold setRtcTimeFds
  split
  · rfl
  · cases halloc : allocIf (0 ≤ rtc.fd) t with
    | none => rfl
    | some r => exact Table.close_of_alloc (allocIf_eq_some halloc)

/-! ### What is lost -/

/-- The sockets and the handler's descriptors are in use, and different. -/
structure ServiceFds.Holds (s : ServiceFds) (limit : ℕ) : Prop where
  limit : s.table.limit = limit
  lost : s.lost ⊆ s.table.inUse
  handler : s.handlerFds ⊆ s.table.inUse
  disjoint : Disjoint s.lost s.handlerFds

/-- **Holds, one step**, and how many sockets the step loses. -/
theorem ServiceFds.Holds.step {s s' : ServiceFds} {a : FdAction} {limit : ℕ} (h : s.Holds limit)
    (hstep : s.step a = some s') :
    s'.Holds limit ∧ s'.lost.card = s.lost.card + losesSocket s a := by
  cases a with
  | others inUse =>
    unfold ServiceFds.step at hstep
    simp only at hstep
    split at hstep
    · rename_i hguard
      cases hstep
      obtain ⟨hlost, hhandler⟩ := Finset.union_subset_iff.mp hguard.2
      exact ⟨⟨h.limit, hlost, hhandler, h.disjoint⟩, rfl⟩
    · cases hstep
  | create env =>
    obtain ⟨hnone, hs'⟩ := Option.ite_none_right_eq_some.mp hstep
    cases hs'
    rcases handler_create_spec env s.table with heq | ⟨handler, t', heq, -, hopened⟩
    · simp only [heq]
      exact ⟨⟨h.limit, h.lost, Finset.empty_subset _, Finset.disjoint_empty_right _⟩, rfl⟩
    · simp only [heq]
      refine ⟨⟨hopened.limit.trans h.limit, ?_, ?_, ?_⟩, rfl⟩
      · show s.lost ⊆ t'.inUse
        rw [hopened.inUse]
        exact h.lost.trans Finset.subset_union_right
      · show handler.all.toFinset ⊆ t'.inUse
        rw [hopened.inUse]
        exact Finset.subset_union_left
      · refine Finset.disjoint_right.mpr fun fd hfd hlost => ?_
        exact hopened.fresh fd (List.mem_toFinset.mp hfd) (h.lost hlost)
  | requestTime x =>
    cases hstep
    rcases requestTimeFds_spec x s.table with ⟨hcloses, heq⟩ | ⟨hloses, fd, hopened⟩
    · have hnone : s.lost ∪ (s.table.inUse \ s.table.inUse) = s.lost := by simp
      simp only [heq, losesSocket, if_neg hcloses, hnone]
      exact ⟨⟨h.limit, h.lost, h.handler, h.disjoint⟩, rfl⟩
    · have hnew : fd ∉ s.table.inUse := hopened.fresh fd (List.mem_singleton.mpr rfl)
      have huse : (requestTimeFds x s.table).inUse = insert fd s.table.inUse := by
        rw [hopened.inUse]
        rfl
      have hlost : s.lost ∪ ((requestTimeFds x s.table).inUse \ s.table.inUse)
          = insert fd s.lost := by
        rw [huse, Finset.insert_sdiff_of_notMem _ hnew, Finset.sdiff_self, Finset.union_comm]
        rfl
      simp only [losesSocket, if_pos hloses, hlost]
      refine ⟨⟨hopened.limit.trans h.limit, ?_, ?_, ?_⟩, ?_⟩
      · show insert fd s.lost ⊆ (requestTimeFds x s.table).inUse
        rw [huse]
        exact Finset.insert_subset_insert fd h.lost
      · show s.handlerFds ⊆ (requestTimeFds x s.table).inUse
        rw [huse]
        exact h.handler.trans (Finset.subset_insert fd _)
      · refine Finset.disjoint_insert_left.mpr ⟨fun hmem => hnew (h.handler hmem), h.disjoint⟩
      · exact Finset.card_insert_of_notMem fun hmem => hnew (h.lost hmem)
  | setRtcTime rtc =>
    cases hstep
    rw [setRtcTimeFds_eq]
    exact ⟨h, rfl⟩

/-- Nothing is left for anyone. -/
structure ServiceFds.Exhausted (s : ServiceFds) : Prop where
  held : s.lost ∪ s.handlerFds = Finset.range s.table.limit
  full : s.table.inUse = Finset.range s.table.limit

/-- In a full table no call gets a descriptor. -/
theorem allocIf_of_full {t : Table} (h : t.inUse = Finset.range t.limit) (ok : Bool) :
    allocIf ok t = none := by
  unfold allocIf
  split
  · exact Table.alloc_eq_none_iff.mpr h
  · rfl

/-- **Exhausted, one step.** -/
theorem ServiceFds.Exhausted.step {s s' : ServiceFds} {a : FdAction} (h : s.Exhausted)
    (hstep : s.step a = some s') : s'.Exhausted := by
  cases a with
  | others inUse =>
    unfold ServiceFds.step at hstep
    simp only at hstep
    split at hstep
    · rename_i hguard
      cases hstep
      -- what the service holds cannot be given back by others
      refine ⟨h.held, Finset.Subset.antisymm hguard.1 ?_⟩
      rw [← h.held]
      exact hguard.2
    · cases hstep
  | create env =>
    obtain ⟨hnone, hs'⟩ := Option.ite_none_right_eq_some.mp hstep
    cases hs'
    have hcreate : HandlerFds.create env s.table = (none, s.table) := by
      unfold HandlerFds.create
      rw [allocIf_of_full h.full]
    have hsame : { s with table := s.table, handler := none } = s := by rw [← hnone]
    simp only [hcreate]
    rw [hsame]
    exact h
  | requestTime x =>
    cases hstep
    have heq : requestTimeFds x s.table = s.table := by
      unfold requestTimeFds
      rw [allocIf_of_full h.full]
      exact ite_self _
    have hnone : s.lost ∪ (s.table.inUse \ s.table.inUse) = s.lost := by simp
    simp only [heq, hnone]
    exact h
  | setRtcTime rtc =>
    cases hstep
    rw [setRtcTimeFds_eq]
    exact h

/-- Without a socket there is no answer. -/
theorem ServiceFds.Exhausted.requestTime_eq {s : ServiceFds} (h : s.Exhausted) (x : NtpExchange) :
    requestTime (x.on s.table) = none := by
  have hon : x.on s.table = { x with socket := -1, connect := -1 } := by
    unfold NtpExchange.on
    rw [allocIf_of_full h.full]
  rw [hon]
  unfold requestTime
  by_cases hresolved : x.getaddrinfo = 0
  · rw [if_neg (not_not.mpr hresolved), if_neg (show ¬ (-1 : ℤ) = 0 by decide),
      if_pos (show (-1 : ℤ) < 0 by decide)]
  · rw [if_pos hresolved]

/-- Without a descriptor the RTC is not set. -/
theorem ServiceFds.Exhausted.rtc_fails {s : ServiceFds} (h : s.Exhausted) (rtc : RtcDevice) :
    (rtc.on s.table).Fails := by
  have hon : rtc.on s.table = { rtc with fd := -1 } := by
    unfold RtcDevice.on
    rw [allocIf_of_full h.full]
  rw [hon]
  exact .inr (.inl (show (-1 : ℤ) < 0 by decide))

/-- **Sockets are lost for good.**  In every run, with whatever else goes on in the process: as
    many sockets stay open as there were calls of `RequestTime` that got one and did not fail in
    `send` or `recv`, those that are answered among them, and together with the timer handler's
    descriptors they are below the limit of the process.  Once they have reached it, no call of
    `RequestTime` is ever answered again, and every call of `SetTime` that sets the clock fails at
    the RTC. -/
theorem descriptors_lost {t : Table} {n : ℕ} {s : ServiceFds}
    (hrun : Spends ServiceFds.step (fun _ _ => True) losesSocket (.start t) n s) :
    s.lost.card = n ∧ s.lost ⊆ s.table.inUse ∧ Disjoint s.lost s.handlerFds ∧
      (∀ x : NtpExchange, requestTime (x.on s.table) ≠ none → (x.on s.table).LosesSocket) ∧
      n + s.handlerFds.card ≤ t.limit ∧
      (n + s.handlerFds.card = t.limit →
        ∀ s', Reaches ServiceFds.step (fun _ _ => True) s s' →
          (∀ x : NtpExchange, requestTime (x.on s'.table) = none) ∧
          ∀ (c : SystemTime) (time : ℤ) (env : SetTimeEnv), env.Sets time →
            c.setTime time (env.on s'.table)
              = (.error .setRtcFailed, c.withClock (timespecOfMillis time))) := by
  have hstart : (ServiceFds.start t).Holds t.limit :=
    ⟨rfl, Finset.empty_subset _, Finset.empty_subset _, Finset.disjoint_empty_left _⟩
  have hkeep : ∀ (u : ServiceFds) a u', u.Holds t.limit → True → u.step a = some u' →
      u'.Holds t.limit :=
    fun _ _ _ h _ hstep => (h.step hstep).1
  have hloses : ∀ (u : ServiceFds) a u', u.Holds t.limit → True → u.step a = some u' →
      u'.lost.card = u.lost.card + losesSocket u a :=
    fun _ _ _ h _ hstep => (h.step hstep).2
  have hholds := hrun.reaches.invariant hkeep hstart
  have hcard : s.lost.card = n := by
    rw [hrun.potential_eq hkeep hloses hstart]
    exact Nat.zero_add n
  -- what is held is in use, and below the limit
  have hheld : s.lost ∪ s.handlerFds ⊆ Finset.range t.limit := by
    rw [← hholds.limit]
    exact (Finset.union_subset hholds.lost hholds.handler).trans s.table.bounded
  have hunion : (s.lost ∪ s.handlerFds).card = n + s.handlerFds.card := by
    rw [Finset.card_union_of_disjoint hholds.disjoint, hcard]
  refine ⟨hcard, hholds.lost, hholds.disjoint, fun _ => losesSocket_of_answered, ?_,
    fun hfull s' hreach => ?_⟩
  · rw [← hunion, ← Finset.card_range t.limit]
    exact Finset.card_le_card hheld
  · have hall : s.lost ∪ s.handlerFds = Finset.range s.table.limit := by
      rw [hholds.limit]
      refine Finset.eq_of_subset_of_card_le hheld ?_
      rw [hunion, Finset.card_range, hfull]
    have hused : s.table.inUse = Finset.range s.table.limit := by
      refine Finset.Subset.antisymm s.table.bounded ?_
      rw [← hall]
      exact Finset.union_subset hholds.lost hholds.handler
    have hexhausted : s'.Exhausted := hreach.invariant (fun _ _ _ h _ hstep => h.step hstep)
      ⟨hall, hused⟩
    refine ⟨hexhausted.requestTime_eq, fun c time env hsets => ?_⟩
    have hfails : (env.on s'.table).rtc.Fails := hexhausted.rtc_fails env.rtc
    have hsets' : (env.on s'.table).Sets time := hsets
    rcases c.setTime_outcome time (env.on s'.table) with ⟨hnot, -⟩ | ⟨-, -, heq⟩ | ⟨-, hserves, -⟩
    · exact absurd hsets' hnot
    · exact heq
    · exact absurd hfails hserves

/-- An exchange that is answered; the table decides about the socket. -/
def answeredExchange : NtpExchange where
  getaddrinfo := 0
  socket := 0
  connect := 0
  sendTime := ⟨0, 0⟩
  send := ntpPackageSize
  datagram := some []
  receiveTime := ⟨0, 0⟩
  steadyMillis := 0

/-- A kernel that serves every call. -/
def servingKernel : HandlerEnv := ⟨true, fun _ => true, fun _ => true, true⟩

/-- In a process with nine descriptors, two refreshes are all there are. -/
theorem descriptors_lost_nine :
    ∃ s : ServiceFds, s.lost = {7, 8} ∧ requestTime (answeredExchange.on s.table) = none := by
  obtain ⟨n, s, hrun, hcheck⟩ := @exists_spends_of_costWhen _ _ ServiceFds.step (fun _ _ => True)
    losesSocket (.start ⟨9, ∅, Finset.empty_subset _⟩) (fun _ _ => true) (fun _ _ _ => trivial)
    [.create servingKernel, .requestTime answeredExchange, .requestTime answeredExchange]
    (fun n s => n = 2 ∧ s.lost = {7, 8} ∧ s.handlerFds.card = 7) (by decide +kernel)
  obtain ⟨rfl, hlost, hhandler⟩ := of_decide_eq_true hcheck
  have hfull : 2 + s.handlerFds.card = 9 := by rw [hhandler]
  obtain ⟨-, -, -, -, -, hforever⟩ := descriptors_lost hrun
  exact ⟨s, hlost, (hforever hfull s Reaches.refl).1 answeredExchange⟩

end TimeService
