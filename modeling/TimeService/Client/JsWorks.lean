import TimeService.Lib.Transition
import TimeService.Client.JsTimers
import TimeService.Client.JsCalls

namespace TimeService

open Transition

/-!
# The works of a script

A call of the JS interface whose arguments are accepted queues an asynchronous work.  The work is
executed on another thread, where it makes its call of `TimeServiceClient`, and completed on the
thread of the script, where a promise is settled or a callback is called.  Works are executed and
completed in any order, and other calls come in between.  A completion that reaches a fault of the
records leaves it in the state, with its work not completed; nothing is said of what comes after.

* `js_calls_settled`: what has become of each call in every state of every run, and what a fault
  takes.
-/

/-! ### Answers and outcomes -/

def NO_ERROR : Int32 := 0

def ERROR : Int32 := -1

/-- What the call of the client answers. -/
abbrev JsMethod.Answer : JsMethod → Type
  | .createTimer => UInt64
  | .startTimer | .stopTimer | .destroyTimer | .setTime | .setTimezone => Bool
  | .getCurrentTime | .getRealActiveTime | .getRealTime | .getDate => Int64
  | .getTimezone => String

/-- The result that a script gets, by what it is made of. -/
inductive JsResult
  | null
  | number (value : Int64)
  | date (value : Int64)
  | string (value : String)
deriving DecidableEq, Repr

/-- What a script sees of a call.  That one is refused it sees by the exception, or where there is
    none by a promise that is rejected.  A callback that is no function cannot be called, and the
    completion throws that error instead. -/
inductive JsOutcome
  | refused (reason : Refusal)
  | resolved (result : JsResult)
  | rejected (result : JsResult)
  | called (callback : ℕ) (errorCode : Int32) (result : JsResult)
  | uncallable
deriving DecidableEq, Repr

/-- The completions whose result is void. -/
def voidResult (isOK : Bool) : Int32 × JsResult := (if isOK then NO_ERROR else ERROR, .null)

/-- The error code of a time. -/
def timeError (time : Int64) : Int32 := if time < 0 then ERROR else NO_ERROR

/-- The error code and the result that the completion of a work makes of the answer. -/
def JsMethod.complete : (method : JsMethod) → method.Answer → Int32 × JsResult
  | .createTimer, timerId => (NO_ERROR, .number (UInt64.toInt64 timerId))
  | .startTimer, isOK => voidResult isOK
  | .stopTimer, isOK => voidResult isOK
  | .destroyTimer, isOK => voidResult isOK
  | .setTime, isOK => voidResult isOK
  | .setTimezone, isOK => voidResult isOK
  -- the branch for a negative time is there, and is empty
  | .getCurrentTime, time => (NO_ERROR, .number time)
  | .getRealActiveTime, time => (timeError time, .number time)
  | .getRealTime, time => (timeError time, .number time)
  | .getDate, time => (timeError time, .date time)
  | .getTimezone, timeZone => (if timeZone = "" then ERROR else NO_ERROR, .string timeZone)

/-- `ReturnCallbackPromise`. -/
def returnCallbackPromise (callback : Option JsRef) (info : Int32 × JsResult) : JsOutcome :=
  match callback with
  | some (.function id) => .called id info.1 info.2
  | some .other => .uncallable
  | none => if info.1 = NO_ERROR then .resolved info.2 else .rejected info.2

/-- `JSParaError` after the arguments have been read. -/
def jsParaError (callback : Option JsRef) : List JsOutcome :=
  match callback with
  | some _ => []
  | none => [.rejected .null]

/-! ### The runtime -/

/-- A call of a script; `allocated` is whether there is memory for its record. -/
structure JsRequest where
  method : JsMethod
  argv : List JsValue
  allocated : Bool

/-- A call of the client, and its answer. -/
structure Exchange where
  call : ClientCall
  method : JsMethod
  answer : method.Answer

/-- An asynchronous work and what its record holds. -/
inductive JsWork
  | queued (method : JsMethod) (call : ClientCall) (callback : Option JsRef)
  | executed (exchange : Exchange) (callback : Option JsRef)

/-- The calls of the script so far, by whose places the rest is told apart; the works; the calls of
    the client and the outcomes so far; the records of the timers; and the fault that a completion
    has reached. -/
structure JsRuntime where
  requests : List JsRequest
  works : ℕ → Option JsWork
  exchanges : List (ℕ × Exchange)
  outcomes : List (ℕ × JsOutcome)
  timers : JsTimers
  fault : Option MemoryFault

def JsRuntime.init : JsRuntime := ⟨[], fun _ => none, [], [], ⟨[], ⟨fun _ => none, []⟩⟩, none⟩

/-- What happens: the script calls, a work is executed and the client answers, a work is completed.
    -/
inductive JsEvent
  | called (request : JsRequest)
  | executed (id : ℕ) (method : JsMethod) (answer : method.Answer)
  | completed (id : ℕ)

/-- Outcomes of a call are noted. -/
def JsRuntime.note (s : JsRuntime) (id : ℕ) (outcomes : List JsOutcome) : JsRuntime :=
  { s with outcomes := s.outcomes ++ outcomes.map (Prod.mk id) }

/-- The arguments have been read. -/
def JsRuntime.begin (s : JsRuntime) (id : ℕ) (request : JsRequest) :
    Except Refusal (ClientCall × Option JsRef) → JsRuntime
  | .error reason => s.note id [.refused reason]
  | .ok (call, callback) =>
    if request.allocated then
      { s with works := Function.update s.works id (some (.queued request.method call callback)) }
    else s.note id (jsParaError callback)

/-- The records after an execution.  The record of `createTimer` has the place of its call for
    address. -/
def JsTimers.executed (timers : JsTimers) (id : ℕ) : (method : JsMethod) → method.Answer → JsTimers
  | .createTimer, timerId => timers.createTimer id timerId
  | _, _ => timers

/-- The records after a completion.  `createTimer` reads its record, which the completion of a
    `destroyTimer` may have freed. -/
def JsTimers.completed (timers : JsTimers) (id : ℕ) :
    ClientCall → (method : JsMethod) → method.Answer → Except MemoryFault JsTimers
  | _, .createTimer, _ => (timers.records.timerId (some id)).map fun _ => timers
  | .destroyTimer timerId, .destroyTimer, isOK => timers.destroyTimer timerId isOK
  | _, _, _ => .ok timers

/-- A work is executed. -/
def JsRuntime.execute (s : JsRuntime) (id : ℕ) (exchange : Exchange) (callback : Option JsRef) :
    JsRuntime :=
  { s with
    works := Function.update s.works id (some (.executed exchange callback))
    exchanges := s.exchanges ++ [exchange].map (Prod.mk id)
    timers := s.timers.executed id exchange.method exchange.answer }

/-- A work is completed, or its completion reaches a fault. -/
def JsRuntime.complete (s : JsRuntime) (id : ℕ) (exchange : Exchange) (callback : Option JsRef) :
    Except MemoryFault JsTimers → JsRuntime
  | .ok timers =>
    { s with works := Function.update s.works id none, timers := timers }.note id
      [returnCallbackPromise callback (exchange.method.complete exchange.answer)]
  | .error fault => { s with fault := some fault }

variable (napi : Napi)

/-- One event; none where it cannot happen, and none after a fault. -/
def JsRuntime.step (s : JsRuntime) (event : JsEvent) : Option JsRuntime :=
  if s.fault.isSome then none
  else
    match event with
    | .called request =>
      some ({ s with requests := s.requests ++ [request] }.begin s.requests.length request
        (request.method.parse napi request.argv))
    | .executed id method answer =>
      match s.works id with
      | some (.queued queued call callback) =>
        if queued = method then some (s.execute id ⟨call, method, answer⟩ callback) else none
      | _ => none
    | .completed id =>
      match s.works id with
      | some (.executed exchange callback) =>
        some (s.complete id exchange callback
          (s.timers.completed id exchange.call exchange.method exchange.answer))
      | _ => none

/-- **Events, by cases.** -/
inductive JsCase (s : JsRuntime) : JsEvent → JsRuntime → Prop
  | called (request : JsRequest) : JsCase s (.called request)
      ({ s with requests := s.requests ++ [request] }.begin s.requests.length request
        (request.method.parse napi request.argv))
  | executed (id : ℕ) (method : JsMethod) (call : ClientCall) (callback : Option JsRef)
      (answer : method.Answer) (hwork : s.works id = some (.queued method call callback)) :
      JsCase s (.executed id method answer) (s.execute id ⟨call, method, answer⟩ callback)
  | completed (id : ℕ) (exchange : Exchange) (callback : Option JsRef) (timers : JsTimers)
      (hwork : s.works id = some (.executed exchange callback))
      (htimers : s.timers.completed id exchange.call exchange.method exchange.answer
        = .ok timers) :
      JsCase s (.completed id) (s.complete id exchange callback (.ok timers))
  | faulted (id : ℕ) (exchange : Exchange) (callback : Option JsRef) (fault : MemoryFault)
      (hwork : s.works id = some (.executed exchange callback))
      (hfault : s.timers.completed id exchange.call exchange.method exchange.answer
        = .error fault) :
      JsCase s (.completed id) { s with fault := some fault }

theorem JsRuntime.jsCase {s t : JsRuntime} {event : JsEvent} (h : s.step napi event = some t) :
    s.fault = none ∧ JsCase napi s event t := by
  unfold JsRuntime.step at h
  split at h
  · cases h
  · rename_i hfault
    refine ⟨Option.not_isSome_iff_eq_none.mp hfault, ?_⟩
    cases event with
    | called request =>
      cases h
      exact .called request
    | executed id method answer =>
      dsimp only at h
      split at h
      · rename_i queued call callback hwork
        split at h
        · rename_i heq
          subst heq
          cases h
          exact .executed id queued call callback answer hwork
        · cases h
      · cases h
    | completed id =>
      dsimp only at h
      split at h
      · rename_i exchange callback hwork
        cases h
        cases htimers : s.timers.completed id exchange.call exchange.method exchange.answer with
        | ok timers => exact .completed id exchange callback timers hwork htimers
        | error fault => exact .faulted id exchange callback fault hwork htimers
      · cases h

/-! ### What becomes of a call -/

section
variable {α : Type}

/-- The part of a history that is about one call. -/
def historyOf (id : ℕ) (history : List (ℕ × α)) : List α :=
  (history.filter fun e => e.1 = id).map Prod.snd

@[simp] theorem historyOf_append_self (id : ℕ) (history : List (ℕ × α)) (l : List α) :
    historyOf id (history ++ l.map (Prod.mk id)) = historyOf id history ++ l := by
  simp [historyOf, List.filter_map, Function.comp_def]

@[simp] theorem historyOf_append_other {id id' : ℕ} (hne : id' ≠ id) (history : List (ℕ × α))
    (l : List α) : historyOf id (history ++ l.map (Prod.mk id')) = historyOf id history := by
  simp [historyOf, List.filter_map, Function.comp_def, hne]

theorem mem_historyOf {e : ℕ × α} {history : List (ℕ × α)} (hmem : e ∈ history) :
    e.2 ∈ historyOf e.1 history :=
  List.mem_map_of_mem (List.mem_filter.mpr ⟨hmem, decide_eq_true rfl⟩)

end

/-- **The fates of a call**, by its work, its calls of the client and its outcomes. -/
inductive JsFate (request : JsRequest) :
    Option JsWork → List Exchange → List JsOutcome → Prop
  | refused (reason : Refusal) (hparse : request.method.parse napi request.argv = .error reason) :
      JsFate request none [] [.refused reason]
  | unallocated (call : ClientCall) (callback : Option JsRef)
      (hparse : request.method.parse napi request.argv = .ok (call, callback))
      (hallocated : request.allocated = false) :
      JsFate request none [] (jsParaError callback)
  | queued (call : ClientCall) (callback : Option JsRef)
      (hparse : request.method.parse napi request.argv = .ok (call, callback)) :
      JsFate request (some (.queued request.method call callback)) [] []
  | executed (call : ClientCall) (callback : Option JsRef) (answer : request.method.Answer)
      (hparse : request.method.parse napi request.argv = .ok (call, callback)) :
      JsFate request (some (.executed ⟨call, request.method, answer⟩ callback))
        [⟨call, request.method, answer⟩] []
  | settled (call : ClientCall) (callback : Option JsRef) (answer : request.method.Answer)
      (hparse : request.method.parse napi request.argv = .ok (call, callback)) :
      JsFate request none [⟨call, request.method, answer⟩]
        [returnCallbackPromise callback (request.method.complete answer)]

/-- What is kept of a call. -/
def JsRuntime.HasFate (s : JsRuntime) (id : ℕ) (request : JsRequest) : Prop :=
  JsFate napi request (s.works id) (historyOf id s.exchanges) (historyOf id s.outcomes)

/-- Every call has one of the fates, and nothing is known of those still to come. -/
structure JsRuntime.Kept (s : JsRuntime) : Prop where
  fate : ∀ id request, s.requests[id]? = some request → s.HasFate napi id request
  fresh : ∀ id, s.requests.length ≤ id →
    s.works id = none ∧ historyOf id s.exchanges = [] ∧ historyOf id s.outcomes = []

/-! ### Each event -/

/-- Nothing is changed of the other calls. -/
structure JsRuntime.Frame (s t : JsRuntime) (id : ℕ) : Prop where
  requests : t.requests = s.requests
  works : ∀ id', id ≠ id' → t.works id' = s.works id'
  exchanges : ∀ id', id ≠ id' → historyOf id' t.exchanges = historyOf id' s.exchanges
  outcomes : ∀ id', id ≠ id' → historyOf id' t.outcomes = historyOf id' s.outcomes

theorem JsRuntime.note_frame (s : JsRuntime) (id : ℕ) (outcomes : List JsOutcome) :
    s.Frame (s.note id outcomes) id where
  requests := rfl
  works _ _ := rfl
  exchanges _ _ := rfl
  outcomes _ hne := historyOf_append_other hne s.outcomes outcomes

theorem JsRuntime.begin_frame (s : JsRuntime) (id : ℕ) (request : JsRequest)
    (parsed : Except Refusal (ClientCall × Option JsRef)) :
    s.Frame (s.begin id request parsed) id := by
  match parsed with
  | .error reason => exact s.note_frame id _
  | .ok (call, callback) =>
    unfold JsRuntime.begin
    dsimp only
    split
    · exact ⟨rfl, fun _ hne => Function.update_of_ne hne.symm _ _, fun _ _ => rfl, fun _ _ => rfl⟩
    · exact s.note_frame id _

theorem JsRuntime.execute_frame (s : JsRuntime) (id : ℕ) (exchange : Exchange)
    (callback : Option JsRef) : s.Frame (s.execute id exchange callback) id where
  requests := rfl
  works _ hne := Function.update_of_ne hne.symm _ _
  exchanges _ hne := historyOf_append_other hne s.exchanges [exchange]
  outcomes _ _ := rfl

theorem JsRuntime.complete_frame (s : JsRuntime) (id : ℕ) (exchange : Exchange)
    (callback : Option JsRef) (timers : JsTimers) :
    s.Frame (s.complete id exchange callback (.ok timers)) id where
  requests := rfl
  works _ hne := Function.update_of_ne hne.symm _ _
  exchanges _ _ := rfl
  outcomes _ hne := historyOf_append_other hne s.outcomes _

variable {napi} {s t : JsRuntime} {id : ℕ} {request : JsRequest}

theorem JsRuntime.HasFate.frame {id' : ℕ} (h : s.HasFate napi id' request) (hframe : s.Frame t id)
    (hne : id ≠ id') : t.HasFate napi id' request := by
  unfold JsRuntime.HasFate
  rw [hframe.works id' hne, hframe.exchanges id' hne, hframe.outcomes id' hne]
  exact h

/-- A call that begins has its fate from there on. -/
theorem JsRuntime.begin_hasFate (hwork : s.works id = none)
    (hexchanges : historyOf id s.exchanges = []) (houtcomes : historyOf id s.outcomes = []) :
    (s.begin id request (request.method.parse napi request.argv)).HasFate napi id request := by
  unfold JsRuntime.HasFate
  match hparse : request.method.parse napi request.argv with
  | .error reason =>
    simp only [JsRuntime.begin, JsRuntime.note, hwork, hexchanges, historyOf_append_self, houtcomes,
      List.nil_append]
    exact .refused reason hparse
  | .ok (call, callback) =>
    cases hallocated : request.allocated with
    | true =>
      simp only [JsRuntime.begin, hallocated, if_true, Function.update_self, hexchanges, houtcomes]
      exact .queued call callback hparse
    | false =>
      simp only [JsRuntime.begin, hallocated, Bool.false_eq_true, if_false, JsRuntime.note, hwork,
        hexchanges, historyOf_append_self, houtcomes, List.nil_append]
      exact .unallocated call callback hparse hallocated

/-- A work that is queued is executed once. -/
theorem JsRuntime.HasFate.execute {method : JsMethod} {call : ClientCall} {callback : Option JsRef}
    (h : s.HasFate napi id request) (hwork : s.works id = some (.queued method call callback))
    (answer : method.Answer) :
    (s.execute id ⟨call, method, answer⟩ callback).HasFate napi id request := by
  unfold JsRuntime.HasFate at h ⊢
  rw [hwork] at h
  generalize hexchanges : historyOf id s.exchanges = exchanges at h
  generalize houtcomes : historyOf id s.outcomes = outcomes at h
  cases h with
  | queued _ _ hparse =>
    simp only [JsRuntime.execute, Function.update_self, historyOf_append_self, hexchanges,
      houtcomes, List.nil_append]
    exact .executed call callback answer hparse

/-- A work that has been executed is completed once, with the answer it got. -/
theorem JsRuntime.HasFate.complete {exchange : Exchange} {callback : Option JsRef}
    (h : s.HasFate napi id request) (hwork : s.works id = some (.executed exchange callback))
    (timers : JsTimers) :
    (s.complete id exchange callback (.ok timers)).HasFate napi id request := by
  unfold JsRuntime.HasFate at h ⊢
  rw [hwork] at h
  generalize hexchanges : historyOf id s.exchanges = exchanges at h
  generalize houtcomes : historyOf id s.outcomes = outcomes at h
  cases h with
  | executed call _ answer hparse =>
    simp only [JsRuntime.complete, JsRuntime.note, Function.update_self, historyOf_append_self,
      hexchanges, houtcomes, List.nil_append]
    exact .settled call callback answer hparse

/-- What keeps the requests and gives the one call its fate keeps all. -/
theorem JsRuntime.Kept.of_frame (h : s.Kept napi) (hframe : s.Frame t id)
    (hwork : s.works id ≠ none)
    (hfate : ∀ request, s.HasFate napi id request → t.HasFate napi id request) : t.Kept napi := by
  have hlt : id < s.requests.length := by
    by_contra hge
    exact hwork (h.fresh id (Nat.le_of_not_lt hge)).1
  constructor
  · intro id' request hrequest
    rw [hframe.requests] at hrequest
    by_cases heq : id = id'
    · subst heq
      exact hfate request (h.fate id request hrequest)
    · exact (h.fate id' request hrequest).frame hframe heq
  · intro id' hge
    rw [hframe.requests] at hge
    have hne : id ≠ id' := by omega
    rw [hframe.works id' hne, hframe.exchanges id' hne, hframe.outcomes id' hne]
    exact h.fresh id' hge

/-- A call of the script. -/
theorem JsRuntime.Kept.called (h : s.Kept napi) (request : JsRequest) :
    ({ s with requests := s.requests ++ [request] }.begin s.requests.length request
      (request.method.parse napi request.argv)).Kept napi := by
  generalize hstart : { s with requests := s.requests ++ [request] } = start
  have hrequests : start.requests = s.requests ++ [request] := by rw [← hstart]
  have hframe := start.begin_frame s.requests.length request
    (request.method.parse napi request.argv)
  obtain ⟨hwork, hexchanges, houtcomes⟩ := h.fresh s.requests.length (Nat.le_refl _)
  constructor
  · intro id' request' hrequest
    rw [hframe.requests, hrequests] at hrequest
    rcases Nat.lt_trichotomy id' s.requests.length with hlt | rfl | hgt
    · rw [List.getElem?_append_left hlt] at hrequest
      have hfate : start.HasFate napi id' request' := by
        rw [← hstart]
        exact h.fate id' request' hrequest
      exact hfate.frame hframe (by omega)
    · rw [List.getElem?_concat_length] at hrequest
      cases hrequest
      subst hstart
      exact begin_hasFate hwork hexchanges houtcomes
    · rw [List.getElem?_eq_none (by simpa using Nat.succ_le_of_lt hgt)] at hrequest
      cases hrequest
  · intro id' hge
    rw [hframe.requests, hrequests, List.length_append, List.length_singleton] at hge
    have hne : s.requests.length ≠ id' := by omega
    rw [hframe.works id' hne, hframe.exchanges id' hne, hframe.outcomes id' hne, ← hstart]
    exact h.fresh id' (by omega)

/-- Every event keeps the fates; a work whose completion reaches a fault stays executed. -/
theorem JsRuntime.Kept.step {event : JsEvent} (h : s.Kept napi) (hcase : JsCase napi s event t) :
    t.Kept napi := by
  cases hcase with
  | called request => exact h.called request
  | executed id method call callback answer hwork =>
    exact h.of_frame (s.execute_frame id _ _) (by rw [hwork]; exact Option.some_ne_none _)
      fun _ hfate => hfate.execute hwork answer
  | completed id exchange callback timers hwork =>
    exact h.of_frame (s.complete_frame id _ _ _) (by rw [hwork]; exact Option.some_ne_none _)
      fun _ hfate => hfate.complete hwork timers
  | faulted => exact ⟨h.fate, h.fresh⟩

theorem JsRuntime.Kept.init : JsRuntime.init.Kept napi where
  fate id request hrequest := by cases hrequest
  fresh _ _ := ⟨rfl, rfl, rfl⟩

/-! ### What a fault takes -/

/-- A call of `destroyTimer` was answered with `true`, for a timer that a call of `createTimer` was
    answered with. -/
def JsRuntime.Destroyed (s : JsRuntime) : Prop :=
  ∃ timerId, (∃ e ∈ s.exchanges, e.2 = ⟨.destroyTimer timerId, .destroyTimer, true⟩) ∧
    ∃ e ∈ s.exchanges, ∃ call, e.2 = ⟨call, .createTimer, timerId⟩

/-- The records as long as none has had to be released. -/
structure JsRuntime.Intact (s : JsRuntime) : Prop where
  fault : s.fault = none
  live : s.timers.Live
  created : ∀ address timerId, s.timers.records.live address = some timerId →
    ∃ e ∈ s.exchanges, ∃ call, e.2 = ⟨call, .createTimer, timerId⟩
  executed : ∀ id exchange callback, s.works id = some (.executed exchange callback) →
    (∃ e ∈ s.exchanges, e.2 = exchange) ∧
      (exchange.method = .createTimer → (s.timers.records.live id).isSome)

theorem JsRuntime.Intact.init : JsRuntime.init.Intact where
  fault := rfl
  live _ hentry := by cases hentry
  created _ _ hid := by cases hid
  executed _ _ _ hwork := by cases hwork

/-- An execution keeps the vector one of live records, and adds the record of a `createTimer`. -/
theorem JsTimers.Live.executed {timers : JsTimers} (h : timers.Live) (id : ℕ) (method : JsMethod)
    (answer : method.Answer) : (timers.executed id method answer).Live := by
  cases method with
  | createTimer => exact h.createTimer id answer
  | _ => exact h

theorem JsTimers.executed_isSome {timers : JsTimers} {address : ℕ} (id : ℕ) (method : JsMethod)
    (answer : method.Answer) (h : (timers.records.live address).isSome) :
    ((timers.executed id method answer).records.live address).isSome := by
  cases method with
  | createTimer =>
    show (Function.update timers.records.live id (some answer) address).isSome
    by_cases heq : address = id
    · rw [heq, Function.update_self]
      rfl
    · rwa [Function.update_of_ne heq]
  | _ => exact h

theorem JsTimers.executed_created {timers : JsTimers} {address id : ℕ} {method : JsMethod}
    {answer : method.Answer} {timerId : UInt64} (call : ClientCall)
    (h : (timers.executed id method answer).records.live address = some timerId) :
    timers.records.live address = some timerId ∨
      (⟨call, method, answer⟩ : Exchange) = ⟨call, .createTimer, timerId⟩ := by
  cases method with
  | createTimer =>
    change Function.update timers.records.live id (some answer) address = some timerId at h
    by_cases heq : address = id
    · rw [heq, Function.update_self] at h
      cases h
      exact .inr rfl
    · rw [Function.update_of_ne heq] at h
      exact .inl h
  | _ => exact .inl h

/-- A completion then changes no record. -/
theorem JsRuntime.Intact.completed {exchange : Exchange} {callback : Option JsRef}
    (h : s.Intact) (hnone : ¬ s.Destroyed)
    (hwork : s.works id = some (.executed exchange callback)) :
    s.timers.completed id exchange.call exchange.method exchange.answer = .ok s.timers := by
  obtain ⟨⟨e, hmem, he⟩, hlive⟩ := h.executed id exchange callback hwork
  obtain ⟨call, method, answer⟩ := exchange
  cases method with
  | createTimer =>
    obtain ⟨timerId, hid⟩ := Option.isSome_iff_exists.mp (hlive rfl)
    simp only [JsTimers.completed, Records.timerId, hid]
    rfl
  | destroyTimer =>
    cases call with
    | destroyTimer timerId =>
      cases answer with
      | false => rfl
      | true =>
        have hwithout : s.timers.Without timerId := by
          intro address _ hid
          exact hnone ⟨timerId, ⟨e, hmem, he⟩, h.created address timerId hid⟩
        simp only [JsTimers.completed, JsTimers.destroyTimer, if_true,
          destroyLoop_of_without h.live hwithout]
        rfl
    | _ => rfl
  | _ => rfl

/-- What has been exchanged stays. -/
theorem JsCase.exchanges {event : JsEvent} (hcase : JsCase napi s event t) :
    ∀ e ∈ s.exchanges, e ∈ t.exchanges := by
  intro e hmem
  cases hcase with
  | called request =>
    unfold JsRuntime.begin
    split
    · exact hmem
    · split
      · exact hmem
      · exact hmem
  | executed => exact List.mem_append_left _ hmem
  | completed => exact hmem
  | faulted => exact hmem

theorem JsRuntime.Destroyed.mono {event : JsEvent} (h : s.Destroyed)
    (hcase : JsCase napi s event t) : t.Destroyed := by
  obtain ⟨timerId, ⟨e, hmem, he⟩, e', hmem', he'⟩ := h
  exact ⟨timerId, ⟨e, hcase.exchanges e hmem, he⟩, e', hcase.exchanges e' hmem', he'⟩

/-- A call that begins has no work that is executed. -/
theorem JsRuntime.begin_works {parsed : Except Refusal (ClientCall × Option JsRef)} {id' : ℕ}
    {exchange : Exchange} {callback : Option JsRef}
    (h : (s.begin id request parsed).works id' = some (.executed exchange callback)) :
    s.works id' = some (.executed exchange callback) := by
  unfold JsRuntime.begin at h
  split at h
  · exact h
  · split at h
    · dsimp only at h
      by_cases heq : id' = id
      · subst heq
        rw [Function.update_self] at h
        cases h
      · rwa [Function.update_of_ne heq] at h
    · exact h

theorem JsRuntime.begin_rest (s : JsRuntime) (id : ℕ) (request : JsRequest)
    (parsed : Except Refusal (ClientCall × Option JsRef)) :
    (s.begin id request parsed).fault = s.fault ∧ (s.begin id request parsed).timers = s.timers ∧
      (s.begin id request parsed).exchanges = s.exchanges := by
  unfold JsRuntime.begin
  split
  · exact ⟨rfl, rfl, rfl⟩
  · split
    · exact ⟨rfl, rfl, rfl⟩
    · exact ⟨rfl, rfl, rfl⟩

/-- **Intact, one event.** -/
theorem JsRuntime.Intact.step {event : JsEvent} (h : s.Intact) (hnone : ¬ s.Destroyed)
    (hcase : JsCase napi s event t) : t.Intact := by
  cases hcase with
  | called request =>
    obtain ⟨hfault, htimers, hexchanges⟩ := JsRuntime.begin_rest
      { s with requests := s.requests ++ [request] } s.requests.length request
      (request.method.parse napi request.argv)
    refine ⟨hfault.trans h.fault, ?_, fun address timerId hid => ?_,
      fun id exchange callback hwork => ?_⟩
    · rw [htimers]
      exact h.live
    · rw [htimers] at hid
      rw [hexchanges]
      exact h.created address timerId hid
    · rw [htimers, hexchanges]
      exact h.executed id exchange callback (JsRuntime.begin_works
        (s := { s with requests := s.requests ++ [request] }) hwork)
  | executed id method call callback answer hwork =>
    have hkept : ∀ e ∈ s.exchanges, e ∈ s.exchanges ++ [(id, ⟨call, method, answer⟩)] :=
      fun e hmem => List.mem_append_left _ hmem
    have hnew : (id, ⟨call, method, answer⟩) ∈ s.exchanges ++ [(id, ⟨call, method, answer⟩)] :=
      List.mem_append_right _ (List.mem_singleton.mpr rfl)
    refine ⟨h.fault, h.live.executed id method answer, fun address timerId hid => ?_,
      fun id' exchange callback' hwork' => ?_⟩
    · rcases JsTimers.executed_created call hid with hid | heq
      · obtain ⟨e, hmem, call', he⟩ := h.created address timerId hid
        exact ⟨e, hkept e hmem, call', he⟩
      · exact ⟨_, hnew, call, heq⟩
    · by_cases heq : id' = id
      · subst heq
        simp only [JsRuntime.execute, Function.update_self, Option.some.injEq,
          JsWork.executed.injEq] at hwork'
        obtain ⟨rfl, -⟩ := hwork'
        refine ⟨⟨_, hnew, rfl⟩, ?_⟩
        rintro rfl
        exact Option.isSome_iff_exists.mpr ⟨answer, Function.update_self ..⟩
      · simp only [JsRuntime.execute, Function.update_of_ne heq] at hwork'
        obtain ⟨⟨e, hmem, he⟩, hlive⟩ := h.executed id' exchange callback' hwork'
        exact ⟨⟨e, hkept e hmem, he⟩,
          fun hmethod => JsTimers.executed_isSome id method answer (hlive hmethod)⟩
  | completed id exchange callback timers hwork htimers =>
    rw [h.completed hnone hwork] at htimers
    cases htimers
    refine ⟨h.fault, h.live, h.created, fun id' exchange' callback' hwork' => ?_⟩
    by_cases heq : id' = id
    · subst heq
      simp only [JsRuntime.complete, JsRuntime.note, Function.update_self] at hwork'
      cases hwork'
    · simp only [JsRuntime.complete, JsRuntime.note, Function.update_of_ne heq] at hwork'
      exact h.executed id' exchange' callback' hwork'
  | faulted id exchange callback fault hwork hfault =>
    rw [h.completed hnone hwork] at hfault
    cases hfault

/-- **Each call comes to one end.**  However the calls of a script, the works and their completions
    come in between each other: a call that is refused makes no call of the client, and its refusal
    is the one thing that is seen of it; one that is accepted makes its call of the client at most
    once, and not before its work is executed, and what is seen of it is seen once, after that, and
    is what the completion makes of the answer this call got.  Nothing is called and nothing is seen
    that is of no call of the script.  A completion reaches a fault only after a `destroyTimer` of a
    timer that `createTimer` has created. -/
theorem js_calls_settled (hrun : Reaches (JsRuntime.step napi) (fun _ _ => True) .init s) :
    (∀ id request, s.requests[id]? = some request → s.HasFate napi id request) ∧
      (∀ e ∈ s.exchanges, e.1 < s.requests.length) ∧
      (∀ e ∈ s.outcomes, e.1 < s.requests.length) ∧
      (s.fault ≠ none → s.Destroyed) := by
  have hkept : s.Kept napi :=
    hrun.invariant (fun _ _ _ h _ hstep => h.step (JsRuntime.jsCase napi hstep).2) .init
  have hstep : ∀ (t : JsRuntime) event (t' : JsRuntime), t.Destroyed ∨ t.Intact → True →
      t.step napi event = some t' → t'.Destroyed ∨ t'.Intact := by
    intro t event t' h _ hstep
    have hcase := (JsRuntime.jsCase napi hstep).2
    rcases h with hdestroyed | hintact
    · exact .inl (hdestroyed.mono hcase)
    · by_cases hdestroyed : t.Destroyed
      · exact .inl (hdestroyed.mono hcase)
      · exact .inr (hintact.step hdestroyed hcase)
  have hintact : s.Destroyed ∨ s.Intact := hrun.invariant hstep (.inr .init)
  refine ⟨hkept.fate, fun e hmem => ?_, fun e hmem => ?_, fun hfault => ?_⟩
  · by_contra hge
    have hnone := (hkept.fresh e.1 (Nat.le_of_not_lt hge)).2.1
    exact List.ne_nil_of_mem (mem_historyOf hmem) hnone
  · by_contra hge
    have hnone := (hkept.fresh e.1 (Nat.le_of_not_lt hge)).2.2
    exact List.ne_nil_of_mem (mem_historyOf hmem) hnone
  · exact hintact.resolve_right fun h => hfault h.fault

/-- A script with one argument that is negative, and two works that are executed and completed the
    other way round. -/
def twoWorks : List JsEvent :=
  [.called ⟨.createTimer, [.object [("type", .number ⟨0, 0⟩), ("repeat", .boolean false)] false],
      true⟩,
    .called ⟨.getTimezone, [], true⟩,
    .called ⟨.startTimer, [.number ⟨-1, -1⟩, .number ⟨5, 5⟩], true⟩,
    .executed 1 .getTimezone "UTC", .executed 0 .createTimer 7, .completed 1, .completed 0]

def plainNapi : Napi := ⟨fun _ => none, fun string => string, fun _ => false⟩

/-- The run of the two works. -/
theorem js_calls_settled_two_works :
    ∃ s : JsRuntime, s.outcomes = [(2, .refused (.assertion
        "Wrong argument timer. Positive number expected.")),
        (1, .resolved (.string "UTC")), (0, .resolved (.number 7))] ∧
      ∀ id request, s.requests[id]? = some request → s.HasFate plainNapi id request := by
  obtain ⟨s, hrun, hcheck⟩ := @exists_reaches_of_runWhen _ _ (JsRuntime.step plainNapi)
    (fun _ _ => True) .init (fun _ _ => true) (fun _ _ _ => trivial) twoWorks
    (fun s => s.outcomes = [(2, .refused (.assertion
      "Wrong argument timer. Positive number expected.")),
      (1, .resolved (.string "UTC")), (0, .resolved (.number 7))]) (by decide +kernel)
  exact ⟨s, of_decide_eq_true hcheck, (js_calls_settled hrun).1⟩

/-- A timer is created and destroyed: the completion erases the one entry and dereferences the
    end. -/
example : (runWhen (JsRuntime.step plainNapi) (fun _ _ => true) .init
    [.called ⟨.createTimer, [.object [("type", .number ⟨0, 0⟩), ("repeat", .boolean false)] false],
        true⟩, .executed 0 .createTimer 7, .completed 0,
      .called ⟨.destroyTimer, [.number ⟨7, 7⟩], true⟩, .executed 1 .destroyTimer true,
      .completed 1]).any (fun s => s.fault = some .endDereference) = true := by
  decide +kernel

end TimeService
