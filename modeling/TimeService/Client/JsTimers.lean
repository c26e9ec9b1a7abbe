import TimeService.Lib.Run
import Mathlib.Logic.Function.Basic

namespace TimeService

/-!
# The records of the JS timers

`system_timer.cpp` of the JS interface keeps a record for every timer that a script has created, in
a vector of pointers; the completion of `DestroyTimer` goes over the vector to release those of a
timer.  A record is an address; its memory is live or freed, and what the language leaves undefined
is a `MemoryFault`.

* `destroyTimer_releases_iff`: the completions that release what they should.
-/

/-- What makes an access to a record undefined. -/
inductive MemoryFault
  | nullDereference
  | freedDereference
  | endDereference
  | doubleFree
deriving DecidableEq, Repr

/-- The records: the `timerId` of each live one, and the addresses freed so far. -/
structure Records where
  live : ℕ → Option UInt64
  freed : List ℕ

/-- `(*it)->timerId`. -/
def Records.timerId (m : Records) : Option ℕ → Except MemoryFault UInt64
  | none => .error .nullDereference
  | some address =>
    match m.live address with
    | none => .error .freedDereference
    | some id => .ok id

/-- `delete` on an entry; on a null pointer it does nothing. -/
def Records.delete (m : Records) : Option ℕ → Except MemoryFault Records
  | none => .ok m
  | some address =>
    match m.live address with
    | none => .error .doubleFree
    | some _ => .ok ⟨Function.update m.live address none, m.freed ++ [address]⟩

/-- The loop of the completion of `DestroyTimer`, from the entry of its iterator on.  `erase`
    returns the iterator of the next entry; that one is deleted and set to null, and passed over. -/
def destroyLoop (timerId : UInt64) :
    Records → List (Option ℕ) → Except MemoryFault (List (Option ℕ) × Records)
  | m, [] => .ok ([], m)
  | m, entry :: rest =>
    match m.timerId entry with
    | .error fault => .error fault
    | .ok id =>
      if id = timerId then
        -- `erase` gives the next entry, which is taken for the one to be deleted
        match rest with
        | [] => .error .endDereference
        | next :: rest =>
          match m.delete next with
          | .error fault => .error fault
          | .ok m => (destroyLoop timerId m rest).map fun r => (none :: r.1, r.2)
      else (destroyLoop timerId m rest).map fun r => (entry :: r.1, r.2)

/-- `asyncCallbackInfoCreateInfo`, with the records it points to. -/
structure JsTimers where
  asyncCallbackInfoCreateInfo : List (Option ℕ)
  records : Records

/-- The execution of `CreateTimer`: a new record, which is kept when its timer has been created. -/
def JsTimers.createTimer (s : JsTimers) (address : ℕ) (timerId : UInt64) : JsTimers where
  asyncCallbackInfoCreateInfo :=
    if timerId > 0 then s.asyncCallbackInfoCreateInfo ++ [some address]
    else s.asyncCallbackInfoCreateInfo
  records := { s.records with live := Function.update s.records.live address (some timerId) }

/-- The completion of `DestroyTimer`; `isOK` is the answer of the service. -/
def JsTimers.destroyTimer (s : JsTimers) (timerId : UInt64) (isOK : Bool) :
    Except MemoryFault JsTimers :=
  if isOK then
    (destroyLoop timerId s.records s.asyncCallbackInfoCreateInfo).map fun r => ⟨r.1, r.2⟩
  else .ok s

/-- What happens to the records. -/
inductive JsTimerEvent
  | createExecuted (address : ℕ) (timerId : UInt64)
  | destroyCompleted (timerId : UInt64) (isOK : Bool)
deriving DecidableEq, Repr

/-- An event; after a fault there is nothing more to say.  `new` never gives the address of a live
    record. -/
def JsTimers.step : Except MemoryFault JsTimers → JsTimerEvent → Except MemoryFault JsTimers
  | .error fault, _ => .error fault
  | .ok s, .createExecuted address timerId =>
    .ok (if (s.records.live address).isSome then s else s.createTimer address timerId)
  | .ok s, .destroyCompleted timerId isOK => s.destroyTimer timerId isOK

/-! ### What a completion owes -/

/-- The entry is a record of the timer. -/
def Records.isOf (m : Records) (timerId : UInt64) (entry : Option ℕ) : Bool :=
  entry.any fun address => m.live address = some timerId

/-- The records of a timer. -/
def JsTimers.recordsOf (s : JsTimers) (timerId : UInt64) : List ℕ :=
  (s.asyncCallbackInfoCreateInfo.filter (s.records.isOf timerId)).filterMap id

/-- The vector loses the records of the timer and keeps the others in their order, and exactly these
    records are freed, each once. -/
structure Released (s : JsTimers) (timerId : UInt64) (s' : JsTimers) : Prop where
  entries : s'.asyncCallbackInfoCreateInfo
    = s.asyncCallbackInfoCreateInfo.filter fun entry => !s.records.isOf timerId entry
  freed : ∃ l : List ℕ, l.Perm (s.recordsOf timerId) ∧ s'.records.freed = s.records.freed ++ l
  live : ∀ address, s'.records.live address
    = if address ∈ s.recordsOf timerId then none else s.records.live address

/-- A completion without fault that releases the records of its timer; that of a refused call
    changes nothing. -/
def CorrectCompletion (s : JsTimers) (timerId : UInt64) (isOK : Bool) : Prop :=
  ∃ s', s.destroyTimer timerId isOK = .ok s' ∧ if isOK then Released s timerId s' else s' = s

/-- Every entry is a live record. -/
def JsTimers.Live (s : JsTimers) : Prop :=
  ∀ entry ∈ s.asyncCallbackInfoCreateInfo,
    ∃ address timerId, entry = some address ∧ s.records.live address = some timerId

/-- No record is of the timer. -/
def JsTimers.Without (s : JsTimers) (timerId : UInt64) : Prop :=
  ∀ address, some address ∈ s.asyncCallbackInfoCreateInfo →
    s.records.live address ≠ some timerId

/-- An event of a run is a correct completion, or none. -/
def CorrectEvent (x : Except MemoryFault JsTimers) : JsTimerEvent → Prop
  | .createExecuted _ _ => True
  | .destroyCompleted timerId isOK => ∃ s, x = .ok s ∧ CorrectCompletion s timerId isOK

/-- An event of a run destroys no timer of which there is a record. -/
def UnmatchedEvent (x : Except MemoryFault JsTimers) : JsTimerEvent → Prop
  | .createExecuted _ _ => True
  | .destroyCompleted timerId isOK => isOK = true → ∀ s, x = .ok s → s.Without timerId

/-! ### The loop -/

/-- Without a record of the timer the loop comes through and changes nothing. -/
theorem destroyLoop_of_without {timerId : UInt64} {m : Records} {entries : List (Option ℕ)}
    (hlive : ∀ entry ∈ entries, ∃ address id, entry = some address ∧ m.live address = some id)
    (hwithout : ∀ address, some address ∈ entries → m.live address ≠ some timerId) :
    destroyLoop timerId m entries = .ok (entries, m) := by
  induction entries with
  | nil => rfl
  | cons entry rest ih =>
    obtain ⟨address, id, rfl, hid⟩ := hlive entry List.mem_cons_self
    have hne : id ≠ timerId := by
      intro heq
      exact hwithout address List.mem_cons_self (by rw [hid, heq])
    have hrest := ih (fun e he => hlive e (List.mem_cons_of_mem _ he))
      fun a ha => hwithout a (List.mem_cons_of_mem _ ha)
    unfold destroyLoop Records.timerId
    simp only [hid]
    rw [if_neg hne, hrest]
    rfl

private theorem exists_of_map_ok {ε α β : Type} {x : Except ε α} {f : α → β} {b : β}
    (h : x.map f = .ok b) : ∃ a, x = .ok a ∧ f a = b := by
  cases x with
  | error e => cases h
  | ok a => exact ⟨a, rfl, Except.ok.inj h⟩

/-- With a record of the timer the loop ends in a fault or leaves a null pointer behind. -/
theorem none_mem_destroyLoop {timerId : UInt64} {m : Records} {entries : List (Option ℕ)}
    {address : ℕ} (hmem : some address ∈ entries) (hid : m.live address = some timerId)
    {r : List (Option ℕ) × Records} (h : destroyLoop timerId m entries = .ok r) : none ∈ r.1 := by
  induction entries generalizing r with
  | nil => cases hmem
  | cons entry rest ih =>
    unfold destroyLoop at h
    cases hentry : m.timerId entry with
    | error fault =>
      rw [hentry] at h
      cases h
    | ok id =>
      simp only [hentry] at h
      split at h
      · -- the entry is erased, the next one is set to null
        split at h
        · cases h
        · split at h
          · cases h
          · obtain ⟨r', _, rfl⟩ := exists_of_map_ok h
            exact List.mem_cons_self
      · rename_i hne
        obtain ⟨r', hr', rfl⟩ := exists_of_map_ok h
        have hrest : some address ∈ rest := by
          rcases List.mem_cons.mp hmem with heq | hrest
          · subst heq
            unfold Records.timerId at hentry
            simp only [hid] at hentry
            cases hentry
            exact (hne rfl).elim
          · exact hrest
        exact List.mem_cons_of_mem _ (ih hrest hr')

/-! ### Correct completions -/

/-- A record of a timer that is not there. -/
theorem JsTimers.Without.recordsOf {s : JsTimers} {timerId : UInt64} (h : s.Without timerId) :
    s.recordsOf timerId = [] ∧
      s.asyncCallbackInfoCreateInfo.filter (fun entry => !s.records.isOf timerId entry)
        = s.asyncCallbackInfoCreateInfo := by
  have hnot : ∀ entry ∈ s.asyncCallbackInfoCreateInfo, s.records.isOf timerId entry = false := by
    intro entry hentry
    cases entry with
    | none => rfl
    | some address => simpa [Records.isOf] using h address hentry
  constructor
  · unfold JsTimers.recordsOf
    rw [List.filter_eq_nil_iff.mpr fun entry hentry => by simp [hnot entry hentry]]
    rfl
  · exact List.filter_eq_self.mpr fun entry hentry => by simp [hnot entry hentry]

/-- **A completion.** On a vector of live records it is correct exactly when it has nothing to
    release. -/
theorem correctCompletion_iff {s : JsTimers} (hs : s.Live) (timerId : UInt64) (isOK : Bool) :
    CorrectCompletion s timerId isOK ↔ (isOK = true → s.Without timerId) := by
  unfold CorrectCompletion JsTimers.destroyTimer
  cases isOK with
  | false => simp
  | true =>
    simp only [if_true, true_implies]
    constructor
    · rintro ⟨s', hs', hreleased⟩ address haddress hid
      obtain ⟨r, hr, rfl⟩ := exists_of_map_ok hs'
      have hnone : none ∈ r.1 := none_mem_destroyLoop haddress hid hr
      have hentries : r.1 = _ := hreleased.entries
      rw [hentries] at hnone
      -- the vector that is left has entries of the old one only, and none of these is null
      obtain ⟨a, id, heq, _⟩ := hs none (List.mem_filter.mp hnone).1
      cases heq
    · intro hwithout
      rw [destroyLoop_of_without hs hwithout]
      obtain ⟨hnil, hentries⟩ := hwithout.recordsOf
      refine ⟨s, rfl, hentries.symm, ⟨[], ?_, by simp⟩, fun address => ?_⟩
      · rw [hnil]
      · rw [hnil, if_neg (List.not_mem_nil)]

/-- A new record keeps the vector one of live records. -/
theorem JsTimers.Live.createTimer {s : JsTimers} (hs : s.Live) (address : ℕ) (timerId : UInt64) :
    (s.createTimer address timerId).Live := by
  have hlive : ∀ entry ∈ s.asyncCallbackInfoCreateInfo ++ [some address], ∃ a id,
      entry = some a ∧ (s.createTimer address timerId).records.live a = some id := by
    intro entry hentry
    by_cases hnew : entry = some address
    · exact ⟨address, timerId, hnew, Function.update_self ..⟩
    · rcases List.mem_append.mp hentry with hold | hlast
      · obtain ⟨a, id, rfl, hid⟩ := hs entry hold
        refine ⟨a, id, rfl, ?_⟩
        show Function.update s.records.live address (some timerId) a = some id
        rw [Function.update_of_ne fun heq => hnew (by rw [heq]), hid]
      · exact (hnew (List.mem_singleton.mp hlast)).elim
  intro entry hentry
  apply hlive
  unfold JsTimers.createTimer at hentry
  simp only at hentry
  split at hentry
  · exact hentry
  · exact List.mem_append_left _ hentry

/-- **Releasing the records of JS timers.** For every vector of live records and every sequence of
    completions of `DestroyTimer`, with any creations in between: the completions are all correct
    exactly when none destroys a timer of which there is a record. -/
theorem destroyTimer_releases_iff {s : JsTimers} (hs : s.Live) (events : List JsTimerEvent) :
    Run.Along JsTimers.step CorrectEvent (.ok s) events
      ↔ Run.Along JsTimers.step UnmatchedEvent (.ok s) events := by
  refine @Run.along_congr _ _ _ _ events (fun x => ∃ t, x = .ok t ∧ t.Live) _ _ ⟨s, rfl, hs⟩ ?_ ?_
  · rintro x event ⟨t, rfl, ht⟩
    cases event with
    | createExecuted address timerId => exact Iff.rfl
    | destroyCompleted timerId isOK =>
      have hcompletion := correctCompletion_iff ht timerId isOK
      constructor
      · rintro ⟨u, hu, hcorrect⟩ hok v hv
        cases hu
        cases hv
        exact hcompletion.mp hcorrect hok
      · intro h
        exact ⟨t, rfl, hcompletion.mpr fun hok => h hok t rfl⟩
  · rintro x event ⟨t, rfl, ht⟩ hunmatched
    cases event with
    | createExecuted address timerId =>
      refine ⟨_, rfl, ?_⟩
      split
      · exact ht
      · exact ht.createTimer address timerId
    | destroyCompleted timerId isOK =>
      refine ⟨t, ?_, ht⟩
      show t.destroyTimer timerId isOK = .ok t
      unfold JsTimers.destroyTimer
      cases isOK with
      | false => rfl
      | true =>
        rw [if_pos rfl, destroyLoop_of_without ht (hunmatched rfl t rfl)]
        rfl

/-- The records of the timers 1, 2 and 3. -/
def threeRecords : JsTimers where
  asyncCallbackInfoCreateInfo := [some 10, some 20, some 30]
  records := ⟨fun address =>
    if address = 10 then some 1 else if address = 20 then some 2
    else if address = 30 then some 3 else none, []⟩

theorem threeRecords_live : threeRecords.Live := by
  intro entry hentry
  have hcases : entry = some 10 ∨ entry = some 20 ∨ entry = some 30 := by
    simpa [threeRecords] using hentry
  rcases hcases with rfl | rfl | rfl
  · exact ⟨10, 1, rfl, rfl⟩
  · exact ⟨20, 2, rfl, rfl⟩
  · exact ⟨30, 3, rfl, rfl⟩

/-- Destroying the first timer frees the record of the second and leaves a null pointer, which the
    next completion dereferences; destroying the last timer dereferences the end. -/
theorem threeRecords_destroyed :
    ¬ CorrectCompletion threeRecords 1 true ∧
    (threeRecords.destroyTimer 1 true).map
        (fun s => (s.asyncCallbackInfoCreateInfo, s.records.freed))
      = .ok ([none, some 30], [20]) ∧
    JsTimers.step (threeRecords.destroyTimer 1 true) (.destroyCompleted 3 true)
      = .error .nullDereference ∧
    threeRecords.destroyTimer 3 true = .error .endDereference := by
  refine ⟨fun h => ?_, rfl, rfl, rfl⟩
  have hwithout := (correctCompletion_iff threeRecords_live 1 true).mp h rfl
  exact hwithout 10 (by simp [threeRecords]) rfl

/-- A timer without record is destroyed correctly. -/
theorem threeRecords_unmatched :
    Run.Along JsTimers.step CorrectEvent (.ok threeRecords) [.destroyCompleted 7 true] := by
  refine (destroyTimer_releases_iff threeRecords_live _).mpr ⟨fun _ s hs address haddress hid => ?_,
    trivial⟩
  cases hs
  have hcases : address = 10 ∨ address = 20 ∨ address = 30 := by
    simpa [threeRecords] using haddress
  rcases hcases with rfl | rfl | rfl <;> exact absurd hid (by decide)

end TimeService
