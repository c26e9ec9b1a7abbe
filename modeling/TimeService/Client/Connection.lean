import TimeService.Lib.Transition
import Mathlib.Data.List.Count
import Mathlib.Tactic.Common

namespace TimeService

open Transition

/-!
# The client's connection

`TimeServiceClient` over restarts of the service: `timeServiceProxy_`, `ConnectService` on any
number of threads, and `OnRemoteSaDied`.  Every call of the client begins with the same lines:
without a proxy it connects, and without a connection it answers false.  `ConnectService` asks the
system ability manager, adds a death recipient, and its caller assigns `timeServiceProxy_`; the
service may die in between, and other threads may connect as well.

* `client_follows_service`: if the service does not die while a thread is connecting, then once the
  death notices are handled the client has no proxy or one of the running service, and a call can
  succeed;
* `client_lost_for_good`: otherwise the client can be left with a proxy of a dead service and no
  recipient that would tell it; then no call of it succeeds again, however often the service starts.

The platform: when a remote object dies it notifies each recipient it has.  What a dead object does
with a recipient, to take it and notify it at once or to refuse it, is part of the action;
`ConnectService` does not look at the answer.
-/

/-- Where a thread is in `ConnectService`: before `GetSystemAbility`, before `AddDeathRecipient`, or
    before the assignment of `timeServiceProxy_`. -/
inductive ConnectStage
  | start
  | found (systemAbility : ℕ)
  | watched (systemAbility : ℕ)
deriving DecidableEq, Repr

/-- A thread in `ConnectService`, called by a call of the client or by `OnRemoteSaDied`. -/
structure Connecting where
  stage : ConnectStage
  forCall : Bool
deriving DecidableEq, Repr

/-- The service, of which each start is numbered, the system ability manager and one client:
    `recipients` are the starts that the client's recipients watch, `notices` the death notices on
    their way to it, and `answers` what its calls have answered. -/
structure Connection where
  alive : Option ℕ
  registered : Option ℕ
  started : ℕ
  recipients : List ℕ
  notices : ℕ
  connecting : List Connecting
  timeServiceProxy : Option ℕ
  answers : List Bool
deriving DecidableEq, Repr

/-- A call of the client, or of `OnRemoteSaDied`, enters `ConnectService`. -/
def Connection.connect (s : Connection) (forCall : Bool) : Connection :=
  { s with connecting := ⟨.start, forCall⟩ :: s.connecting }

/-- A thread goes on. -/
def Connection.proceed (s : Connection) (c : Connecting) (stage : ConnectStage) : Connection :=
  { s with connecting := ⟨stage, c.forCall⟩ :: s.connecting.erase c }

/-- `ConnectService` returns, and its caller assigns `timeServiceProxy_`.  A call of the client
    goes on to the service, which answers if it runs. -/
def Connection.finish (s : Connection) (c : Connecting) (proxy : Option ℕ) : Connection :=
  { s with
    connecting := s.connecting.erase c
    timeServiceProxy := proxy
    answers := s.answers ++
      if c.forCall then [proxy.any fun systemAbility => s.alive = some systemAbility] else [] }

/-- A thread adds a recipient: the running service keeps it; a dead one refuses it, or takes it and
    notifies it at once. -/
def Connection.addRecipient (s : Connection) (systemAbility : ℕ) (takenWhenDead : Bool) :
    Connection :=
  if s.alive = some systemAbility then { s with recipients := systemAbility :: s.recipients }
  else if takenWhenDead then { s with notices := s.notices + 1 }
  else s

/-- What happens: the service publishes itself, it dies, the system ability manager forgets it; the
    client is called, a death notice arrives, a thread in `ConnectService` makes its next step.
    What the manager, a dead object and `iface_cast` answer is part of the action. -/
inductive ConnectAction
  | publish
  | die
  | forget
  | call
  | onRemoteSaDied
  | getSystemAbility (c : Connecting) (ok : Bool)
  | addDeathRecipient (c : Connecting) (takenWhenDead : Bool)
  | assign (c : Connecting) (cast : Bool)

/-- One step; `none` when the action is not enabled. -/
def Connection.step (s : Connection) : ConnectAction → Option Connection
  | .publish =>
    if s.alive = none then
      some { s with
        alive := some (s.started + 1)
        registered := some (s.started + 1)
        started := s.started + 1 }
    else none
  | .die => s.alive.map fun systemAbility =>
      { s with
        alive := none
        recipients := s.recipients.filter fun watched => watched ≠ systemAbility
        notices := s.notices + s.recipients.count systemAbility }
  | .forget => if s.registered ≠ s.alive then some { s with registered := none } else none
  | .call =>
    match s.timeServiceProxy with
    | none => some (s.connect true)
    | some systemAbility =>
      some { s with answers := s.answers ++ [decide (s.alive = some systemAbility)] }
  | .onRemoteSaDied =>
    if 0 < s.notices then some ({ s with notices := s.notices - 1 }.connect false) else none
  | .getSystemAbility c ok =>
    if c ∈ s.connecting ∧ c.stage = .start then
      match if ok then s.registered else none with
      | none => some (s.finish c none)
      | some systemAbility => some (s.proceed c (.found systemAbility))
    else none
  | .addDeathRecipient c takenWhenDead =>
    match c.stage with
    | .found systemAbility =>
      if c ∈ s.connecting then
        some ((s.addRecipient systemAbility takenWhenDead).proceed c (.watched systemAbility))
      else none
    | _ => none
  | .assign c cast =>
    match c.stage with
    | .watched systemAbility =>
      if c ∈ s.connecting then some (s.finish c (if cast then some systemAbility else none))
      else none
    | _ => none

/-- Nothing has happened yet. -/
def Connection.init : Connection := ⟨none, none, 0, [], 0, [], none, []⟩

/-! ### Steps, by cases -/

/-- **Steps, by cases.** -/
inductive ConnectCase (s : Connection) : ConnectAction → Connection → Prop
  | publish (hdead : s.alive = none) :
      ConnectCase s .publish { s with
        alive := some (s.started + 1)
        registered := some (s.started + 1)
        started := s.started + 1 }
  | die (systemAbility : ℕ) (halive : s.alive = some systemAbility) :
      ConnectCase s .die { s with
        alive := none
        recipients := s.recipients.filter fun watched => watched ≠ systemAbility
        notices := s.notices + s.recipients.count systemAbility }
  | forget (hgone : s.registered ≠ s.alive) :
      ConnectCase s .forget { s with registered := none }
  | connect (hnone : s.timeServiceProxy = none) : ConnectCase s .call (s.connect true)
  | call (systemAbility : ℕ) (hproxy : s.timeServiceProxy = some systemAbility) :
      ConnectCase s .call
        { s with answers := s.answers ++ [decide (s.alive = some systemAbility)] }
  | onRemoteSaDied (hnotice : 0 < s.notices) :
      ConnectCase s .onRemoteSaDied ({ s with notices := s.notices - 1 }.connect false)
  | notFound (c : Connecting) (ok : Bool) (hc : c ∈ s.connecting) :
      ConnectCase s (.getSystemAbility c ok) (s.finish c none)
  | found (c : Connecting) (ok : Bool) (systemAbility : ℕ) (hc : c ∈ s.connecting)
      (hregistered : s.registered = some systemAbility) :
      ConnectCase s (.getSystemAbility c ok) (s.proceed c (.found systemAbility))
  | addDeathRecipient (c : Connecting) (takenWhenDead : Bool) (systemAbility : ℕ)
      (hc : c ∈ s.connecting) (hstage : c.stage = .found systemAbility) :
      ConnectCase s (.addDeathRecipient c takenWhenDead)
        ((s.addRecipient systemAbility takenWhenDead).proceed c (.watched systemAbility))
  | assign (c : Connecting) (cast : Bool) (systemAbility : ℕ) (hc : c ∈ s.connecting)
      (hstage : c.stage = .watched systemAbility) :
      ConnectCase s (.assign c cast) (s.finish c (if cast then some systemAbility else none))

theorem Connection.connectCase {s s' : Connection} {a : ConnectAction} (h : s.step a = some s') :
    ConnectCase s a s' := by
  cases a with
  | publish =>
    obtain ⟨hdead, hs'⟩ := Option.ite_none_right_eq_some.mp h
    cases hs'
    exact .publish hdead
  | die =>
    obtain ⟨systemAbility, halive, rfl⟩ := Option.map_eq_some_iff.mp h
    exact .die systemAbility halive
  | forget =>
    obtain ⟨hgone, hs'⟩ := Option.ite_none_right_eq_some.mp h
    cases hs'
    exact .forget hgone
  | call =>
    unfold Connection.step at h
    simp only at h
    split at h
    · rename_i hnone
      cases h
      exact .connect hnone
    · rename_i systemAbility hproxy
      cases h
      exact .call systemAbility hproxy
  | onRemoteSaDied =>
    obtain ⟨hnotice, hs'⟩ := Option.ite_none_right_eq_some.mp h
    cases hs'
    exact .onRemoteSaDied hnotice
  | getSystemAbility c ok =>
    obtain ⟨⟨hc, -⟩, hs'⟩ := Option.ite_none_right_eq_some.mp h
    split at hs'
    · cases hs'
      exact .notFound c ok hc
    · rename_i systemAbility hanswer
      cases hs'
      cases ok with
      | false => cases hanswer
      | true => exact .found c true systemAbility hc hanswer
  | addDeathRecipient c takenWhenDead =>
    unfold Connection.step at h
    simp only at h
    split at h
    · rename_i systemAbility hstage
      obtain ⟨hc, hs'⟩ := Option.ite_none_right_eq_some.mp h
      cases hs'
      exact .addDeathRecipient c takenWhenDead systemAbility hc hstage
    · cases h
  | assign c cast =>
    unfold Connection.step at h
    simp only at h
    split at h
    · rename_i systemAbility hstage
      obtain ⟨hc, hs'⟩ := Option.ite_none_right_eq_some.mp h
      cases hs'
      exact .assign c cast systemAbility hc hstage
    · cases h

/-! ### Following the service -/

/-- The service does not die while a thread is in `ConnectService`, and the manager has heard of a
    death before it is asked. -/
def Undisturbed (s : Connection) : ConnectAction → Prop
  | .die => s.connecting = []
  | .getSystemAbility _ _ => s.registered = s.alive
  | _ => True

/-- The thread has to do with this start of the service. -/
def Connecting.Holds (c : Connecting) (systemAbility : ℕ) : Prop :=
  c.stage = .found systemAbility ∨ c.stage = .watched systemAbility

instance (s : Connection) (a : ConnectAction) : Decidable (Undisturbed s a) :=
  match a with
  | .die => inferInstanceAs (Decidable (s.connecting = []))
  | .getSystemAbility _ _ => inferInstanceAs (Decidable (s.registered = s.alive))
  | .publish => inferInstanceAs (Decidable True)
  | .forget => inferInstanceAs (Decidable True)
  | .call => inferInstanceAs (Decidable True)
  | .onRemoteSaDied => inferInstanceAs (Decidable True)
  | .addDeathRecipient _ _ => inferInstanceAs (Decidable True)
  | .assign _ _ => inferInstanceAs (Decidable True)

/-- Threads connect to the running service, and a proxy is one of the running service and watched,
    or will be replaced. -/
structure Connection.Follows (s : Connection) : Prop where
  listed : ∀ systemAbility ∈ s.alive, s.registered = some systemAbility
  running : ∀ c ∈ s.connecting, ∀ systemAbility, c.Holds systemAbility →
    s.alive = some systemAbility
  watched : ∀ c ∈ s.connecting, ∀ systemAbility, c.stage = .watched systemAbility →
    systemAbility ∈ s.recipients
  proxy : ∀ systemAbility ∈ s.timeServiceProxy,
    (s.alive = some systemAbility ∧ systemAbility ∈ s.recipients) ∨ 0 < s.notices ∨
      s.connecting ≠ []

/-- A call or a death notice enters `ConnectService`. -/
theorem Connection.Follows.connect {s : Connection} (h : s.Follows) (forCall : Bool) (notices : ℕ) :
    ({ s with notices }.connect forCall).Follows where
  listed := h.listed
  running := fun c hc systemAbility hholds => by
    rcases List.mem_cons.mp hc with rfl | hc
    · rcases hholds with hstage | hstage <;> cases hstage
    · exact h.running c hc systemAbility hholds
  watched := fun c hc systemAbility hstage => by
    rcases List.mem_cons.mp hc with rfl | hc
    · cases hstage
    · exact h.watched c hc systemAbility hstage
  proxy := fun _ _ => .inr (.inr (List.cons_ne_nil _ _))

/-- A thread goes on with the running service, watching it if it says so. -/
theorem Connection.Follows.proceed {s : Connection} (h : s.Follows) (c : Connecting)
    {stage : ConnectStage} {recipients : List ℕ}
    (hmore : ∀ watched ∈ s.recipients, watched ∈ recipients)
    (hrunning : ∀ systemAbility, stage = .found systemAbility ∨ stage = .watched systemAbility →
      s.alive = some systemAbility)
    (hwatched : ∀ systemAbility, stage = .watched systemAbility → systemAbility ∈ recipients) :
    ({ s with recipients }.proceed c stage).Follows where
  listed := h.listed
  running := fun c' hc' systemAbility hholds => by
    rcases List.mem_cons.mp hc' with rfl | hc'
    · exact hrunning systemAbility hholds
    · exact h.running c' (List.mem_of_mem_erase hc') systemAbility hholds
  watched := fun c' hc' systemAbility hstage => by
    rcases List.mem_cons.mp hc' with rfl | hc'
    · exact hwatched systemAbility hstage
    · exact hmore _ (h.watched c' (List.mem_of_mem_erase hc') systemAbility hstage)
  proxy := fun _ _ => .inr (.inr (List.cons_ne_nil _ _))

/-- A thread ends with the running service, or with nothing. -/
theorem Connection.Follows.finish {s : Connection} (h : s.Follows) (c : Connecting)
    {proxy : Option ℕ}
    (hproxy : ∀ systemAbility ∈ proxy,
      s.alive = some systemAbility ∧ systemAbility ∈ s.recipients) :
    (s.finish c proxy).Follows where
  listed := h.listed
  running := fun c' hc' => h.running c' (List.mem_of_mem_erase hc')
  watched := fun c' hc' => h.watched c' (List.mem_of_mem_erase hc')
  proxy := fun systemAbility hsome => .inl (hproxy systemAbility hsome)

/-- **Following, one step.** -/
theorem Connection.Follows.step {s s' : Connection} {a : ConnectAction} (h : s.Follows)
    (hok : Undisturbed s a) (hcase : ConnectCase s a s') : s'.Follows := by
  cases hcase with
  | publish hdead =>
    -- nothing can hold on to a service that does not run
    refine ⟨fun _ hsome => hsome, fun c hc systemAbility hholds => ?_, h.watched,
      fun systemAbility hsome => ?_⟩
    · have halive := h.running c hc systemAbility hholds
      rw [hdead] at halive
      cases halive
    · rcases h.proxy systemAbility hsome with ⟨halive, -⟩ | hlater
      · rw [hdead] at halive
        cases halive
      · exact .inr hlater
  | die systemAbility halive =>
    have hnone : s.connecting = [] := hok
    refine ⟨(fun _ hsome => by cases hsome), fun c hc => ?_, fun c hc => ?_,
      fun watched hsome => ?_⟩
    · rw [hnone] at hc
      cases hc
    · rw [hnone] at hc
      cases hc
    · -- its recipient sends a notice
      right
      left
      rcases h.proxy watched hsome with ⟨hsame, hmem⟩ | hnotices | hconnecting
      · rw [halive] at hsame
        cases hsame
        have hpos : 0 < s.recipients.count systemAbility := List.count_pos_iff.mpr hmem
        show 0 < s.notices + s.recipients.count systemAbility
        omega
      · show 0 < s.notices + s.recipients.count systemAbility
        omega
      · exact absurd hnone hconnecting
  | forget hgone =>
    refine ⟨fun systemAbility halive => ?_, h.running, h.watched, h.proxy⟩
    exact absurd ((h.listed systemAbility halive).trans halive.symm) hgone
  | connect => exact h.connect true s.notices
  | call => exact ⟨h.listed, h.running, h.watched, h.proxy⟩
  | onRemoteSaDied => exact h.connect false (s.notices - 1)
  | notFound c => exact h.finish c fun _ hsome => by cases hsome
  | found c ok systemAbility hc hregistered =>
    have halive : s.alive = some systemAbility := by
      rw [← hregistered]
      exact hok.symm
    refine h.proceed c (fun _ hmem => hmem) (fun systemAbility' hstage => ?_) (fun _ hstage => ?_)
    · rcases hstage with hstage | hstage
      · cases hstage
        exact halive
      · cases hstage
    · cases hstage
  | addDeathRecipient c takenWhenDead systemAbility hc hstage =>
    have halive := h.running c hc systemAbility (.inl hstage)
    rw [Connection.addRecipient, if_pos halive]
    refine h.proceed c (fun _ hmem => List.mem_cons_of_mem _ hmem) (fun systemAbility' hnext => ?_)
      (fun systemAbility' hnext => ?_)
    · rcases hnext with hnext | hnext
      · cases hnext
      · cases hnext
        exact halive
    · cases hnext
      exact List.mem_cons_self
  | assign c cast systemAbility hc hstage =>
    refine h.finish c fun systemAbility' hsome => ?_
    cases cast with
    | false => cases hsome
    | true =>
      cases hsome
      exact ⟨h.running c hc systemAbility (.inr hstage), h.watched c hc systemAbility hstage⟩

/-! ### Being lost -/

/-- The client has a proxy of a service that does not run, and nothing will tell it. -/
structure Connection.Lost (s : Connection) : Prop where
  proxy : ∃ systemAbility ≤ s.started, s.timeServiceProxy = some systemAbility ∧
    s.alive ≠ some systemAbility
  recipients : s.recipients = []
  notices : s.notices = 0
  connecting : s.connecting = []

/-- **Lost, one step.** The calls of the client fail. -/
theorem Connection.Lost.step {s s' : Connection} {a : ConnectAction} (h : s.Lost)
    (hcase : ConnectCase s a s') :
    s'.Lost ∧ ∃ l, s'.answers = s.answers ++ l ∧ ∀ answer ∈ l, answer = false := by
  obtain ⟨systemAbility, hle, hproxy, hdead⟩ := h.proxy
  have hsame : ∃ l, s.answers = s.answers ++ l ∧ ∀ answer ∈ l, answer = false :=
    ⟨[], (List.append_nil _).symm, fun _ hmem => by cases hmem⟩
  have hidle : ∀ c, c ∉ s.connecting := by
    intro c hc
    rw [h.connecting] at hc
    cases hc
  cases hcase with
  | publish =>
    refine ⟨⟨⟨systemAbility, Nat.le_succ_of_le hle, hproxy, fun hnew => ?_⟩, h.recipients,
      h.notices, h.connecting⟩, hsame⟩
    -- every start has a number of its own
    have heq : s.started + 1 = systemAbility := Option.some.inj hnew
    omega
  | die =>
    refine ⟨⟨⟨systemAbility, hle, hproxy, fun hnew => by cases hnew⟩, ?_, ?_, h.connecting⟩, hsame⟩
    · show s.recipients.filter _ = []
      rw [h.recipients]
      rfl
    · show s.notices + s.recipients.count _ = 0
      rw [h.recipients, h.notices]
      rfl
  | forget => exact ⟨⟨⟨systemAbility, hle, hproxy, hdead⟩, h.recipients, h.notices, h.connecting⟩,
      hsame⟩
  | connect hnone =>
    rw [hproxy] at hnone
    cases hnone
  | call systemAbility' hsome =>
    rw [hproxy] at hsome
    cases hsome
    refine ⟨⟨⟨systemAbility, hle, hproxy, hdead⟩, h.recipients, h.notices, h.connecting⟩,
      _, rfl, fun answer hmem => ?_⟩
    rw [List.mem_singleton.mp hmem, decide_eq_false hdead]
  | onRemoteSaDied hnotice =>
    rw [h.notices] at hnotice
    cases hnotice
  | notFound c ok hc => exact absurd hc (hidle c)
  | found c ok systemAbility' hc => exact absurd hc (hidle c)
  | addDeathRecipient c takenWhenDead systemAbility' hc => exact absurd hc (hidle c)
  | assign c cast systemAbility' hc => exact absurd hc (hidle c)

/-! ### The two outcomes -/

theorem Connection.Follows.init : Connection.init.Follows :=
  ⟨(fun _ hsome => by cases hsome), (fun _ hc => by cases hc), (fun _ hc => by cases hc),
    fun _ hsome => by cases hsome⟩

/-- A client without a proxy connects to the running service, and its call succeeds. -/
theorem Connection.Follows.connects {s : Connection} (h : s.Follows) {systemAbility : ℕ}
    (halive : s.alive = some systemAbility) (hnone : s.timeServiceProxy = none) :
    ∃ s', Reaches Connection.step Undisturbed s s' ∧ s'.answers = s.answers ++ [true] := by
  have hlisted := h.listed systemAbility halive
  let found := (s.connect true).proceed ⟨.start, true⟩ (.found systemAbility)
  let watched := { found with recipients := systemAbility :: s.recipients }.proceed
    ⟨.found systemAbility, true⟩ (.watched systemAbility)
  let finished := watched.finish ⟨.watched systemAbility, true⟩ (some systemAbility)
  have hcall : s.step .call = some (s.connect true) := by
    unfold Connection.step
    simp only [hnone]
  have hfound : (s.connect true).step (.getSystemAbility ⟨.start, true⟩ true) = some found := by
    simp [Connection.step, Connection.connect, hlisted, found]
  have hwatched : found.step (.addDeathRecipient ⟨.found systemAbility, true⟩ false)
      = some watched := by
    simp [Connection.step, found, watched, Connection.proceed, Connection.connect,
      Connection.addRecipient, halive]
  have hfinished : watched.step (.assign ⟨.watched systemAbility, true⟩ true) = some finished := by
    simp [Connection.step, watched, finished, Connection.proceed]
  have hknown : Undisturbed (s.connect true) (.getSystemAbility ⟨.start, true⟩ true) :=
    hlisted.trans halive.symm
  have hfree : Undisturbed s .call := trivial
  have hfree' : Undisturbed found (.addDeathRecipient ⟨.found systemAbility, true⟩ false) :=
    trivial
  have hfree'' : Undisturbed watched (.assign ⟨.watched systemAbility, true⟩ true) := trivial
  refine ⟨finished, (((Reaches.refl.tail hfree hcall).tail hknown hfound).tail hfree' hwatched).tail
    hfree'' hfinished, ?_⟩
  show s.answers ++ [decide (s.alive = some systemAbility)] = s.answers ++ [true]
  rw [decide_eq_true halive]

/-- **The client follows the service.**  If the service does not die while a thread is in
    `ConnectService`: whenever all death notices are handled and no thread is connecting, the client
    has no proxy or one of the running service, and if the service runs, a call can succeed. -/
theorem client_follows_service {s : Connection}
    (hrun : Reaches Connection.step Undisturbed .init s) (hnotices : s.notices = 0)
    (hidle : s.connecting = []) :
    (∀ systemAbility ∈ s.timeServiceProxy, s.alive = some systemAbility) ∧
      ∀ systemAbility ∈ s.alive,
        ∃ s', Reaches Connection.step Undisturbed s s' ∧ s'.answers = s.answers ++ [true] := by
  have hfollows : s.Follows := hrun.invariant
    (fun _ _ _ h hok hstep => h.step hok (Connection.connectCase hstep)) .init
  have hproxy : ∀ systemAbility ∈ s.timeServiceProxy, s.alive = some systemAbility := by
    intro systemAbility hsome
    rcases hfollows.proxy systemAbility hsome with ⟨halive, -⟩ | hpending | hconnecting
    · exact halive
    · omega
    · exact absurd hidle hconnecting
  refine ⟨hproxy, fun systemAbility halive => ?_⟩
  cases hsome : s.timeServiceProxy with
  | none => exact hfollows.connects halive hsome
  | some systemAbility' =>
    have hcall : s.step .call
        = some { s with answers := s.answers ++ [decide (s.alive = some systemAbility')] } := by
      unfold Connection.step
      simp only [hsome]
    have hfree : Undisturbed s .call := trivial
    refine ⟨_, Reaches.refl.tail hfree hcall, ?_⟩
    rw [decide_eq_true (hproxy systemAbility' hsome)]

/-- **A client can be lost for good.**  With a proxy of a dead service, no recipient, no notice on
    its way and no thread connecting, it stays so in every run, and all its calls fail. -/
theorem client_lost_for_good {s s' : Connection} (h : s.Lost)
    (hrun : Reaches Connection.step (fun _ _ => True) s s') :
    s'.Lost ∧ ∃ l, s'.answers = s.answers ++ l ∧ ∀ answer ∈ l, answer = false :=
  hrun.log Connection.answers (fun _ _ _ h _ hstep => h.step (Connection.connectCase hstep)) h

/-- The service dies when the client watches it and has not yet assigned the proxy.  The notice is
    handled first, finds no service and clears `timeServiceProxy_`; then the proxy of the dead
    service is assigned, and the service starts again. -/
def noticeBeforeAssign : List ConnectAction :=
  [.publish, .call, .getSystemAbility ⟨.start, true⟩ true,
    .addDeathRecipient ⟨.found 1, true⟩ false, .die, .onRemoteSaDied,
    .getSystemAbility ⟨.start, false⟩ false, .assign ⟨.watched 1, true⟩ true, .publish]

/-- The client connects, the service starts again, and the client connects to it when it is told of
    the death. -/
def restartFollowed : List ConnectAction :=
  [.publish, .call, .getSystemAbility ⟨.start, true⟩ true,
    .addDeathRecipient ⟨.found 1, true⟩ false, .assign ⟨.watched 1, true⟩ true,
    .die, .publish, .onRemoteSaDied, .getSystemAbility ⟨.start, false⟩ true,
    .addDeathRecipient ⟨.found 2, false⟩ false, .assign ⟨.watched 2, false⟩ true]

/-- After a restart the client has a proxy of the second start. -/
theorem client_follows_service_restart :
    ∃ s : Connection, s.timeServiceProxy = some 2 ∧ s.alive = some 2 ∧
      ∃ s', Reaches Connection.step Undisturbed s s' ∧ s'.answers = s.answers ++ [true] := by
  obtain ⟨s, hrun, hcheck⟩ := @exists_reaches_of_runWhen _ _ Connection.step Undisturbed .init
    (fun s a => decide (Undisturbed s a)) (fun _ _ => of_decide_eq_true) restartFollowed
    (fun s => s.timeServiceProxy = some 2 ∧ s.alive = some 2 ∧ s.notices = 0 ∧ s.connecting = [])
    (by decide +kernel)
  obtain ⟨hproxy, halive, hnotices, hidle⟩ := of_decide_eq_true hcheck
  exact ⟨s, hproxy, halive, (client_follows_service hrun hnotices hidle).2 2 halive⟩

/-- The service runs, and the calls of the client fail. -/
theorem client_lost_for_good_reachable :
    ∃ s s' : Connection, Reaches Connection.step (fun _ _ => True) .init s ∧ s.alive = some 2 ∧
      s.step .call = some s' ∧ s'.Lost ∧
      ∃ l, s'.answers = s.answers ++ l ∧ ∀ answer ∈ l, answer = false := by
  obtain ⟨s, hrun, hcheck⟩ := @exists_reaches_of_runWhen _ _ Connection.step (fun _ _ => True) .init
    (fun _ _ => true) (fun _ _ _ => trivial)
    noticeBeforeAssign
    (fun s => s.timeServiceProxy = some 1 ∧ s.alive = some 2 ∧ s.started = 2 ∧ s.recipients = [] ∧
      s.notices = 0 ∧ s.connecting = []) (by decide +kernel)
  obtain ⟨hproxy, halive, hstarted, hrecipients, hnotices, hidle⟩ := of_decide_eq_true hcheck
  have hdead : s.alive ≠ some 1 := by
    rw [halive]
    decide
  have hlost : s.Lost :=
    ⟨⟨1, by rw [hstarted]; decide, hproxy, hdead⟩, hrecipients, hnotices, hidle⟩
  have hcall : s.step .call
      = some { s with answers := s.answers ++ [decide (s.alive = some 1)] } := by
    unfold Connection.step
    simp only [hproxy]
  exact ⟨s, _, hrun, halive, hcall,
    client_lost_for_good hlost (Reaches.refl.tail trivial hcall)⟩

end TimeService
