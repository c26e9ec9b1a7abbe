import Mathlib.Data.Int.Notation
import Mathlib.Data.Nat.Notation
import Mathlib.Data.List.Basic

namespace TimeService

/-!
# The arguments of a script

`system_timer.cpp` and `js_systemtime.cpp` of the JS interface: a call reads its arguments, and
makes a call of `TimeServiceClient` of them or refuses them.  The arguments are those that
`napi_get_cb_info` gives, with the number of them that it gives; a number is what
`napi_get_value_int32` and `napi_get_value_int64` make of it.

* `js_parse_ok_iff`: which arguments are accepted, and what is made of them.
-/

/-! ### Values -/

/-- A number of the script, as it is read. -/
structure JsNumber where
  toInt32 : Int32
  toInt64 : Int64
deriving DecidableEq, Repr

/-- A value of the script, by the cases of `napi_valuetype`.  Of a function, a symbol and an
    external value only the identity is known; `wrapped` is whether `napi_unwrap` finds a native
    object in an object. -/
inductive JsValue
  | undefined
  | null
  | boolean (value : Bool)
  | number (value : JsNumber)
  | string (value : String)
  | symbol (id : ℕ)
  | object (properties : List (String × JsValue)) (wrapped : Bool)
  | function (id : ℕ)
  | external (id : ℕ)
  | bigint (value : ℤ)

/-- A reference to a value of the script that is to be called. -/
inductive JsRef
  | function (id : ℕ)
  | other
deriving DecidableEq, Repr

/-- Why a call goes no further: `NAPI_ASSERT` throws with a text, `NAPI_CALL` throws the error of a
    function of the interface, or the reading stops without an exception. -/
inductive Refusal
  | assertion (message : String)
  | napiCall
  | silent
deriving DecidableEq, Repr

/-- `ITimerInfoInstance`, as its setters have left it. -/
structure TimerOptions where
  type : Int32
  repeats : Bool
  interval : UInt64
  wantAgent : Bool
  callback : Option ℕ
deriving DecidableEq, Repr

/-- The functions of the two modules. -/
inductive JsMethod
  | createTimer
  | startTimer
  | stopTimer
  | destroyTimer
  | setTime
  | setTimezone
  | getCurrentTime
  | getRealActiveTime
  | getRealTime
  | getDate
  | getTimezone
deriving DecidableEq, Repr

/-- The calls of `TimeServiceClient`. -/
inductive ClientCall
  | createTimer (options : TimerOptions)
  | startTimer (timerId triggerTime : UInt64)
  | stopTimer (timerId : UInt64)
  | destroyTimer (timerId : UInt64)
  | setTime (time : Int64)
  | setTimeZone (timezoneId : String)
  | getWallTime (isNano : Bool)
  | getMonotonicTime (isNano : Bool)
  | getBootTime (isNano : Bool)
  | getTimeZone
deriving DecidableEq, Repr

/-- The platform: what calling a function of the script gives, what is left of a string that is
    copied into a buffer of `MAX_TIME_ZONE_ID` bytes, and whether `napi_create_reference` takes a
    value that is not a function. -/
structure Napi where
  callFunction : ℕ → Option JsValue
  toBuffer : String → String
  refers : JsValue → Bool

/-! ### Arguments -/

/-- `NAPI_ASSERT`. -/
def napiAssert (assertion : Bool) (message : String) : Except Refusal Unit :=
  if assertion then pure () else throw (.assertion message)

/-- The argument at a place; one that is missing is undefined. -/
def argument (argv : List JsValue) (place : ℕ) : JsValue := argv.getD place .undefined

/-- A number that may not be negative, as `timer` and `triggerTime`. -/
def parseNonNegative (value : JsValue) (message : String) : Except Refusal UInt64 :=
  match value with
  | .number n => do
    napiAssert (n.toInt64 ≥ 0) message
    return n.toInt64.toUInt64
  | _ => throw (.assertion "Wrong argument type. Number expected.")

/-- The callback, which is the last argument and may be missing. -/
def parseCallback (argv : List JsValue) (place : ℕ) : Except Refusal (Option JsRef) :=
  if place < argv.length then
    match argument argv place with
    | .function id => pure (some (.function id))
    | _ => throw (.assertion "Wrong argument type. Function expected.")
  else pure none

/-- `type: number` of the timer options. -/
def typeOption (properties : List (String × JsValue)) : Except Refusal Int32 :=
  match properties.lookup "type" with
  | none => throw (.assertion "type expected.")
  | some (.number n) => pure n.toInt32
  | some _ => throw (.assertion "Wrong argument type. Number expected.")

/-- `repeat: boolean`. -/
def repeatOption (properties : List (String × JsValue)) : Except Refusal Bool :=
  match properties.lookup "repeat" with
  | none => throw (.assertion "repeat expected.")
  | some (.boolean b) => pure b
  | some _ => throw (.assertion "Wrong argument type. Bool expected.")

/-- `interval?: number`. -/
def intervalOption (properties : List (String × JsValue)) : Except Refusal UInt64 :=
  match properties.lookup "interval" with
  | none => pure 0
  | some value => parseNonNegative value "Wrong argument number. Positive number expected."

/-- `wantAgent?: WantAgent`.  An object without a native one ends the call with no exception. -/
def wantAgentOption (properties : List (String × JsValue)) : Except Refusal Bool :=
  match properties.lookup "wantAgent" with
  | none => pure false
  | some (.object _ wrapped) => if wrapped then pure true else throw .silent
  | some _ => throw (.assertion "Wrong argument type. Object expected.")

/-- `callback?: () => void`. -/
def callbackOption (properties : List (String × JsValue)) : Except Refusal (Option ℕ) :=
  match properties.lookup "callback" with
  | none => pure none
  | some (.function id) => pure (some id)
  | some _ => throw (.assertion "Wrong argument type. Function expected.")

/-- `GetTimerOptions`. -/
def getTimerOptions (properties : List (String × JsValue)) : Except Refusal TimerOptions := do
  let type ← typeOption properties
  let repeats ← repeatOption properties
  let interval ← intervalOption properties
  let wantAgent ← wantAgentOption properties
  let callback ← callbackOption properties
  return ⟨type, repeats, interval, wantAgent, callback⟩

/-- The first argument of `createTimer`. -/
def timerOptions (value : JsValue) : Except Refusal TimerOptions :=
  match value with
  | .object properties _ => getTimerOptions properties
  | _ => throw (.assertion "Wrong argument type. Object expected.")

/-- `ParseParametersByCreateTimer`. -/
def parseParametersByCreateTimer (argv : List JsValue) :
    Except Refusal (TimerOptions × Option JsRef) := do
  napiAssert (argv.length ≥ 1) "Wrong number of arguments"
  let options ← timerOptions (argument argv 0)
  return (options, ← parseCallback argv 1)

/-- `ParseParametersByStartTimer`. -/
def parseParametersByStartTimer (argv : List JsValue) :
    Except Refusal ((UInt64 × UInt64) × Option JsRef) := do
  napiAssert (argv.length ≥ 2) "Wrong number of arguments"
  let timerId ← parseNonNegative (argument argv 0) "Wrong argument timer. Positive number expected."
  let triggerTime ← parseNonNegative (argument argv 1)
    "Wrong argument triggerTime. Positive number expected."
  return ((timerId, triggerTime), ← parseCallback argv 2)

/-- `ParseParametersByStopTimer` and `ParseParametersByDestroyTimer`. -/
def parseTimer (argv : List JsValue) : Except Refusal (UInt64 × Option JsRef) := do
  napiAssert (argv.length ≥ 1) "Wrong number of arguments"
  let timerId ← parseNonNegative (argument argv 0) "Wrong argument timer. Positive number expected."
  return (timerId, ← parseCallback argv 1)

def parseParametersByStopTimer := parseTimer

def parseParametersByDestroyTimer := parseTimer

variable (napi : Napi)

/-- The first argument of `setTime`: a number, or an object with a function `getTime`, whose number
    is not checked. -/
def timesOf (value : JsValue) : Except Refusal Int64 :=
  match value with
  | .number n => do
    napiAssert (n.toInt64 ≥ 0) "Wrong argument timer. Positive number expected."
    return n.toInt64
  | .object properties _ =>
    match properties.lookup "getTime" with
    | none => throw (.assertion "type expected.")
    | some (.function id) =>
      match napi.callFunction id with
      | none => throw .napiCall
      | some (.number n) => pure n.toInt64
      | some _ => throw (.assertion "type mismatch")
    | some _ => throw .napiCall
  | _ => throw (.assertion "Wrong argument type. string expected.")

/-- `ParseParametersBySetTime`. -/
def parseParametersBySetTime (argv : List JsValue) : Except Refusal (Int64 × Option JsRef) := do
  napiAssert (argv.length ≥ 1) "Wrong number of arguments"
  let times ← timesOf napi (argument argv 0)
  return (times, ← parseCallback argv 1)

/-- The first argument of `setTimezone`. -/
def timezoneOf (value : JsValue) : Except Refusal String :=
  match value with
  | .string timezoneId => pure (napi.toBuffer timezoneId)
  | _ => throw (.assertion "Wrong argument type. string expected.")

/-- `ParseParametersBySetTimezone`. -/
def parseParametersBySetTimezone (argv : List JsValue) :
    Except Refusal (String × Option JsRef) := do
  napiAssert (argv.length ≥ 1) "Wrong number of arguments"
  let timezoneId ← timezoneOf napi (argument argv 0)
  return (timezoneId, ← parseCallback argv 1)

/-- `ParseParametersGet`: with two arguments and more none is looked at. -/
def parseParametersGet (argv : List JsValue) : Except Refusal (Option JsRef) :=
  if argv.length = 1 then parseCallback argv 0 else pure none

/-- `napi_create_reference`. -/
def Napi.reference : JsValue → Option JsRef
  | .function id => some (.function id)
  | value => if napi.refers value then some .other else none

/-- What `napi_get_value_bool` leaves in a variable that is false. -/
def JsValue.isTrue : JsValue → Bool
  | .boolean value => value
  | _ => false

/-- `ParseParametersGetNA`: no argument is refused. -/
def parseParametersGetNA (argv : List JsValue) : Bool × Option JsRef :=
  match argv with
  | [.function id] => (false, some (.function id))
  | [value] => (value.isTrue, none)
  | [isNano, callback] => (isNano.isTrue, napi.reference callback)
  | _ => (false, none)

/-- What a call asks of the client, and where its answer goes; or why it is refused. -/
def JsMethod.parse (method : JsMethod) (argv : List JsValue) :
    Except Refusal (ClientCall × Option JsRef) :=
  match method with
  | .createTimer => do
    let (options, callback) ← parseParametersByCreateTimer argv
    return (.createTimer options, callback)
  | .startTimer => do
    let ((timerId, triggerTime), callback) ← parseParametersByStartTimer argv
    return (.startTimer timerId triggerTime, callback)
  | .stopTimer => do
    let (timerId, callback) ← parseParametersByStopTimer argv
    return (.stopTimer timerId, callback)
  | .destroyTimer => do
    let (timerId, callback) ← parseParametersByDestroyTimer argv
    return (.destroyTimer timerId, callback)
  | .setTime => do
    let (times, callback) ← parseParametersBySetTime napi argv
    return (.setTime times, callback)
  | .setTimezone => do
    let (timezoneId, callback) ← parseParametersBySetTimezone napi argv
    return (.setTimeZone timezoneId, callback)
  | .getCurrentTime =>
    pure (.getWallTime (parseParametersGetNA napi argv).1, (parseParametersGetNA napi argv).2)
  | .getRealActiveTime =>
    pure (.getMonotonicTime (parseParametersGetNA napi argv).1, (parseParametersGetNA napi argv).2)
  | .getRealTime =>
    pure (.getBootTime (parseParametersGetNA napi argv).1, (parseParametersGetNA napi argv).2)
  | .getDate => do return (.getWallTime false, ← parseParametersGet argv)
  | .getTimezone => do return (.getTimeZone, ← parseParametersGet argv)

/-! ### What is accepted -/

/-- The callback of a call: there is no argument at its place, or a function is. -/
inductive CallbackAt (argv : List JsValue) (place : ℕ) : Option JsRef → Prop
  | missing (hlength : argv.length ≤ place) : CallbackAt argv place none
  | given (id : ℕ) (harg : argv[place]? = some (.function id)) :
      CallbackAt argv place (some (.function id))

/-- A number that is not negative, and the word it becomes. -/
inductive NonNegative : JsValue → UInt64 → Prop
  | intro (n : JsNumber) (hn : 0 ≤ n.toInt64) : NonNegative (.number n) n.toInt64.toUInt64

/-- The properties describe the options: `type` and `repeat` have to be there, the others may be
    missing; those that are there have their types, and the interval is not negative. -/
structure Describes (properties : List (String × JsValue)) (options : TimerOptions) : Prop where
  type : ∃ n, properties.lookup "type" = some (.number n) ∧ options.type = n.toInt32
  repeats : properties.lookup "repeat" = some (.boolean options.repeats)
  interval : properties.lookup "interval" = none ∧ options.interval = 0 ∨
    ∃ value, properties.lookup "interval" = some value ∧ NonNegative value options.interval
  wantAgent : properties.lookup "wantAgent" = none ∧ options.wantAgent = false ∨
    (∃ inner, properties.lookup "wantAgent" = some (.object inner true)) ∧ options.wantAgent = true
  callback : properties.lookup "callback" = none ∧ options.callback = none ∨
    ∃ id, properties.lookup "callback" = some (.function id) ∧ options.callback = some id

/-- The time of `setTime`: a number that is not negative, or whatever number an object's `getTime`
    gives. -/
inductive TimeOf : JsValue → Int64 → Prop
  | number (n : JsNumber) (hn : 0 ≤ n.toInt64) : TimeOf (.number n) n.toInt64
  | date (properties : List (String × JsValue)) (wrapped : Bool) (id : ℕ) (n : JsNumber)
      (hfunction : properties.lookup "getTime" = some (.function id))
      (hcall : napi.callFunction id = some (.number n)) :
      TimeOf (.object properties wrapped) n.toInt64

/-- What the arguments of a time ask for: nanoseconds, by a first argument that is `true` with at
    most one after it; a callback, by one argument that is a function, or by the second of two,
    which has to be nothing in particular. -/
structure Asks (argv : List JsValue) (isNano : Bool) (callback : Option JsRef) : Prop where
  isNano : isNano = true ↔ argv.length ≤ 2 ∧ argv[0]? = some (.boolean true)
  callback : ∀ ref, callback = some ref ↔ (∃ id, argv = [.function id] ∧ ref = .function id) ∨
    ∃ first second, argv = [first, second] ∧ napi.reference second = some ref

/-- The arguments that a function of the modules accepts, the call of the client that it makes of
    them, and the callback. -/
inductive Accepts : JsMethod → List JsValue → ClientCall → Option JsRef → Prop
  | createTimer (argv properties wrapped options callback)
      (harg : argv[0]? = some (.object properties wrapped))
      (hoptions : Describes properties options)
      (hcallback : CallbackAt argv 1 callback) :
      Accepts .createTimer argv (.createTimer options) callback
  | startTimer (argv timer trigger timerId triggerTime callback) (htimer : argv[0]? = some timer)
      (htimerId : NonNegative timer timerId) (htrigger : argv[1]? = some trigger)
      (htriggerTime : NonNegative trigger triggerTime) (hcallback : CallbackAt argv 2 callback) :
      Accepts .startTimer argv (.startTimer timerId triggerTime) callback
  | stopTimer (argv timer timerId callback) (htimer : argv[0]? = some timer)
      (htimerId : NonNegative timer timerId) (hcallback : CallbackAt argv 1 callback) :
      Accepts .stopTimer argv (.stopTimer timerId) callback
  | destroyTimer (argv timer timerId callback) (htimer : argv[0]? = some timer)
      (htimerId : NonNegative timer timerId) (hcallback : CallbackAt argv 1 callback) :
      Accepts .destroyTimer argv (.destroyTimer timerId) callback
  | setTime (argv value times callback) (harg : argv[0]? = some value)
      (htime : TimeOf napi value times) (hcallback : CallbackAt argv 1 callback) :
      Accepts .setTime argv (.setTime times) callback
  | setTimezone (argv timezoneId callback) (harg : argv[0]? = some (.string timezoneId))
      (hcallback : CallbackAt argv 1 callback) :
      Accepts .setTimezone argv (.setTimeZone (napi.toBuffer timezoneId)) callback
  | getCurrentTime (argv isNano callback) (hasks : Asks napi argv isNano callback) :
      Accepts .getCurrentTime argv (.getWallTime isNano) callback
  | getRealActiveTime (argv isNano callback) (hasks : Asks napi argv isNano callback) :
      Accepts .getRealActiveTime argv (.getMonotonicTime isNano) callback
  | getRealTime (argv isNano callback) (hasks : Asks napi argv isNano callback) :
      Accepts .getRealTime argv (.getBootTime isNano) callback
  | getDate (argv callback) (hcallback : argv.length = 1 → CallbackAt argv 0 callback)
      (hother : argv.length ≠ 1 → callback = none) :
      Accepts .getDate argv (.getWallTime false) callback
  | getTimezone (argv callback) (hcallback : argv.length = 1 → CallbackAt argv 0 callback)
      (hother : argv.length ≠ 1 → callback = none) :
      Accepts .getTimezone argv .getTimeZone callback

section
variable {α β : Type}

/-- A sequence succeeds when its parts do. -/
theorem bind_eq_ok_iff {x : Except Refusal α} {k : α → Except Refusal β} {b : β} :
    x >>= k = .ok b ↔ ∃ a, x = .ok a ∧ k a = .ok b := by
  cases x with
  | error e => exact ⟨(fun h => by cases h), (fun ⟨_, h, _⟩ => by cases h)⟩
  | ok a =>
    constructor
    · exact fun h => ⟨a, rfl, h⟩
    · rintro ⟨_, h, hk⟩
      cases h
      exact hk

theorem napiAssert_eq_ok_iff {assertion : Bool} {message : String} {u : Unit} :
    napiAssert assertion message = .ok u ↔ assertion = true := by
  unfold napiAssert
  cases assertion with
  | true => exact ⟨fun _ => rfl, fun _ => rfl⟩
  | false => exact ⟨(fun h => by cases h), (fun h => by cases h)⟩

/-- An argument that is not undefined is there. -/
theorem argument_eq_iff {argv : List JsValue} {place : ℕ} {value : JsValue}
    (hlength : place < argv.length) :
    argument argv place = value ↔ argv[place]? = some value := by
  unfold argument
  rw [List.getD_eq_getElem?_getD, List.getElem?_eq_getElem hlength]
  simp

theorem parseNonNegative_eq_ok_iff {value : JsValue} {message : String} {word : UInt64} :
    parseNonNegative value message = .ok word ↔ NonNegative value word := by
  constructor
  · intro h
    cases value with
    | number n =>
      obtain ⟨_, hassert, hword⟩ := bind_eq_ok_iff.mp h
      cases hword
      exact .intro n (of_decide_eq_true (napiAssert_eq_ok_iff.mp hassert))
    | _ => cases h
  · rintro ⟨n, hn⟩
    exact bind_eq_ok_iff.mpr ⟨(), napiAssert_eq_ok_iff.mpr (decide_eq_true hn), rfl⟩

theorem parseCallback_eq_ok_iff {argv : List JsValue} {place : ℕ} {callback : Option JsRef} :
    parseCallback argv place = .ok callback ↔ CallbackAt argv place callback := by
  unfold parseCallback
  split
  · rename_i hlength
    constructor
    · intro h
      split at h
      · rename_i id heq
        cases h
        exact .given id ((argument_eq_iff hlength).mp heq)
      · cases h
    · intro h
      cases h with
      | missing hle => omega
      | given id harg => rw [(argument_eq_iff hlength).mpr harg]; rfl
  · rename_i hlength
    constructor
    · intro h
      cases h
      exact .missing (by omega)
    · intro h
      cases h with
      | missing hle => rfl
      | given id harg => exact absurd (List.getElem?_eq_some_iff.mp harg).1 hlength

section
variable {properties : List (String × JsValue)}

theorem typeOption_eq_ok_iff {type : Int32} : typeOption properties = .ok type ↔
    ∃ n, properties.lookup "type" = some (.number n) ∧ type = n.toInt32 := by
  unfold typeOption
  constructor
  · intro h
    split at h
    · cases h
    · rename_i n heq
      cases h
      exact ⟨n, heq, rfl⟩
    · cases h
  · rintro ⟨n, heq, rfl⟩
    rw [heq]
    rfl

theorem repeatOption_eq_ok_iff {repeats : Bool} : repeatOption properties = .ok repeats ↔
    properties.lookup "repeat" = some (.boolean repeats) := by
  unfold repeatOption
  constructor
  · intro h
    split at h
    · cases h
    · rename_i b heq
      cases h
      exact heq
    · cases h
  · intro heq
    rw [heq]
    rfl

theorem intervalOption_eq_ok_iff {interval : UInt64} : intervalOption properties = .ok interval ↔
    properties.lookup "interval" = none ∧ interval = 0 ∨
      ∃ value, properties.lookup "interval" = some value ∧ NonNegative value interval := by
  unfold intervalOption
  constructor
  · intro h
    split at h
    · rename_i heq
      cases h
      exact .inl ⟨heq, rfl⟩
    · rename_i value heq
      exact .inr ⟨value, heq, parseNonNegative_eq_ok_iff.mp h⟩
  · rintro (⟨heq, rfl⟩ | ⟨value, heq, hvalue⟩)
    · rw [heq]
      rfl
    · rw [heq]
      exact parseNonNegative_eq_ok_iff.mpr hvalue

theorem wantAgentOption_eq_ok_iff {wantAgent : Bool} :
    wantAgentOption properties = .ok wantAgent ↔
      properties.lookup "wantAgent" = none ∧ wantAgent = false ∨
        (∃ inner, properties.lookup "wantAgent" = some (.object inner true)) ∧
          wantAgent = true := by
  unfold wantAgentOption
  constructor
  · intro h
    split at h
    · rename_i heq
      cases h
      exact .inl ⟨heq, rfl⟩
    · rename_i inner wrapped heq
      cases wrapped with
      | false => cases h
      | true =>
        cases h
        exact .inr ⟨⟨inner, heq⟩, rfl⟩
    · cases h
  · rintro (⟨heq, rfl⟩ | ⟨⟨inner, heq⟩, rfl⟩)
    · rw [heq]
      rfl
    · rw [heq]
      rfl

theorem callbackOption_eq_ok_iff {callback : Option ℕ} :
    callbackOption properties = .ok callback ↔
      properties.lookup "callback" = none ∧ callback = none ∨
        ∃ id, properties.lookup "callback" = some (.function id) ∧ callback = some id := by
  unfold callbackOption
  constructor
  · intro h
    split at h
    · rename_i heq
      cases h
      exact .inl ⟨heq, rfl⟩
    · rename_i id heq
      cases h
      exact .inr ⟨id, heq, rfl⟩
    · cases h
  · rintro (⟨heq, rfl⟩ | ⟨id, heq, rfl⟩)
    · rw [heq]
      rfl
    · rw [heq]
      rfl

theorem getTimerOptions_eq_ok_iff {options : TimerOptions} :
    getTimerOptions properties = .ok options ↔ Describes properties options := by
  unfold getTimerOptions
  constructor
  · intro h
    obtain ⟨type, htype, h⟩ := bind_eq_ok_iff.mp h
    obtain ⟨repeats, hrepeats, h⟩ := bind_eq_ok_iff.mp h
    obtain ⟨interval, hinterval, h⟩ := bind_eq_ok_iff.mp h
    obtain ⟨wantAgent, hwantAgent, h⟩ := bind_eq_ok_iff.mp h
    obtain ⟨callback, hcallback, h⟩ := bind_eq_ok_iff.mp h
    cases h
    exact ⟨typeOption_eq_ok_iff.mp htype, repeatOption_eq_ok_iff.mp hrepeats,
      intervalOption_eq_ok_iff.mp hinterval, wantAgentOption_eq_ok_iff.mp hwantAgent,
      callbackOption_eq_ok_iff.mp hcallback⟩
  · intro h
    refine bind_eq_ok_iff.mpr ⟨_, typeOption_eq_ok_iff.mpr h.type, ?_⟩
    refine bind_eq_ok_iff.mpr ⟨_, repeatOption_eq_ok_iff.mpr h.repeats, ?_⟩
    refine bind_eq_ok_iff.mpr ⟨_, intervalOption_eq_ok_iff.mpr h.interval, ?_⟩
    refine bind_eq_ok_iff.mpr ⟨_, wantAgentOption_eq_ok_iff.mpr h.wantAgent, ?_⟩
    exact bind_eq_ok_iff.mpr ⟨_, callbackOption_eq_ok_iff.mpr h.callback, rfl⟩

theorem timesOf_eq_ok_iff {value : JsValue} {times : Int64} :
    timesOf napi value = .ok times ↔ TimeOf napi value times := by
  constructor
  · intro h
    cases value with
    | number n =>
      obtain ⟨_, hassert, htimes⟩ := bind_eq_ok_iff.mp h
      cases htimes
      exact .number n (of_decide_eq_true (napiAssert_eq_ok_iff.mp hassert))
    | object properties wrapped =>
      unfold timesOf at h
      dsimp only at h
      split at h
      · cases h
      · rename_i id hfunction
        split at h
        · cases h
        · rename_i n hcall
          cases h
          exact .date properties wrapped id n hfunction hcall
        · cases h
      · cases h
    | _ => cases h
  · intro h
    cases h with
    | number n hn =>
      exact bind_eq_ok_iff.mpr ⟨(), napiAssert_eq_ok_iff.mpr (decide_eq_true hn), rfl⟩
    | date properties wrapped id n hfunction hcall =>
      unfold timesOf
      dsimp only
      rw [hfunction]
      dsimp only
      rw [hcall]
      rfl

end

theorem timerOptions_eq_ok_iff {value : JsValue} {options : TimerOptions} :
    timerOptions value = .ok options ↔
      ∃ properties wrapped, value = .object properties wrapped ∧ Describes properties options := by
  constructor
  · intro h
    cases value with
    | object properties wrapped =>
      exact ⟨properties, wrapped, rfl, getTimerOptions_eq_ok_iff.mp h⟩
    | _ => cases h
  · rintro ⟨properties, wrapped, rfl, h⟩
    exact getTimerOptions_eq_ok_iff.mpr h

theorem timezoneOf_eq_ok_iff {value : JsValue} {timezoneId : String} :
    timezoneOf napi value = .ok timezoneId ↔
      ∃ string, value = .string string ∧ timezoneId = napi.toBuffer string := by
  constructor
  · intro h
    cases value with
    | string string =>
      cases h
      exact ⟨string, rfl, rfl⟩
    | _ => cases h
  · rintro ⟨string, rfl, rfl⟩
    rfl

/-- Reading one argument and the callback after it. -/
theorem first_then_callback {read : JsValue → Except Refusal α} {message : String}
    {argv : List JsValue} {a : α} {callback : Option JsRef} :
    (do napiAssert (argv.length ≥ 1) message
        let a ← read (argument argv 0)
        return (a, ← parseCallback argv 1)) = .ok (a, callback) ↔
      (∃ value, argv[0]? = some value ∧ read value = .ok a) ∧ CallbackAt argv 1 callback := by
  constructor
  · intro h
    obtain ⟨_, hassert, h⟩ := bind_eq_ok_iff.mp h
    obtain ⟨a', hread, h⟩ := bind_eq_ok_iff.mp h
    obtain ⟨callback', hcallback, h⟩ := bind_eq_ok_iff.mp h
    cases h
    have hlength := of_decide_eq_true (napiAssert_eq_ok_iff.mp hassert)
    exact ⟨⟨_, (argument_eq_iff hlength).mp rfl, hread⟩, parseCallback_eq_ok_iff.mp hcallback⟩
  · rintro ⟨⟨value, harg, hread⟩, hcallback⟩
    have hlength : 0 < argv.length := (List.getElem?_eq_some_iff.mp harg).1
    refine bind_eq_ok_iff.mpr ⟨(), napiAssert_eq_ok_iff.mpr (decide_eq_true hlength), ?_⟩
    rw [(argument_eq_iff hlength).mpr harg]
    refine bind_eq_ok_iff.mpr ⟨a, hread, ?_⟩
    exact bind_eq_ok_iff.mpr ⟨callback, parseCallback_eq_ok_iff.mpr hcallback, rfl⟩

/-- The same where the argument is a timer. -/
theorem parseTimer_eq_ok_iff {argv : List JsValue} {timerId : UInt64} {callback : Option JsRef} :
    parseTimer argv = .ok (timerId, callback) ↔
      (∃ timer, argv[0]? = some timer ∧ NonNegative timer timerId) ∧
        CallbackAt argv 1 callback := by
  refine (@first_then_callback _ (fun value => parseNonNegative value
    "Wrong argument timer. Positive number expected.") _ argv timerId callback).trans ?_
  refine and_congr_left fun _ => ?_
  constructor
  · rintro ⟨timer, harg, hread⟩
    exact ⟨timer, harg, parseNonNegative_eq_ok_iff.mp hread⟩
  · rintro ⟨timer, harg, htimer⟩
    exact ⟨timer, harg, parseNonNegative_eq_ok_iff.mpr htimer⟩

/-- The same for the two numbers of `startTimer`. -/
theorem parseParametersByStartTimer_eq_ok_iff {argv : List JsValue} {timerId triggerTime : UInt64}
    {callback : Option JsRef} :
    parseParametersByStartTimer argv = .ok ((timerId, triggerTime), callback) ↔
      (∃ timer, argv[0]? = some timer ∧ NonNegative timer timerId) ∧
        (∃ trigger, argv[1]? = some trigger ∧ NonNegative trigger triggerTime) ∧
          CallbackAt argv 2 callback := by
  constructor
  · intro h
    obtain ⟨_, hassert, h⟩ := bind_eq_ok_iff.mp h
    obtain ⟨timerId', htimer, h⟩ := bind_eq_ok_iff.mp h
    obtain ⟨triggerTime', htrigger, h⟩ := bind_eq_ok_iff.mp h
    obtain ⟨callback', hcallback, h⟩ := bind_eq_ok_iff.mp h
    cases h
    have hlength : argv.length ≥ 2 := of_decide_eq_true (napiAssert_eq_ok_iff.mp hassert)
    exact ⟨⟨_, (argument_eq_iff (by omega)).mp rfl, parseNonNegative_eq_ok_iff.mp htimer⟩,
      ⟨_, (argument_eq_iff hlength).mp rfl, parseNonNegative_eq_ok_iff.mp htrigger⟩,
      parseCallback_eq_ok_iff.mp hcallback⟩
  · rintro ⟨⟨timer, harg0, htimer⟩, ⟨trigger, harg1, htrigger⟩, hcallback⟩
    have hlength : 1 < argv.length := (List.getElem?_eq_some_iff.mp harg1).1
    refine bind_eq_ok_iff.mpr ⟨(), napiAssert_eq_ok_iff.mpr (decide_eq_true hlength), ?_⟩
    rw [(argument_eq_iff (by omega)).mpr harg0, (argument_eq_iff hlength).mpr harg1]
    refine bind_eq_ok_iff.mpr ⟨timerId, parseNonNegative_eq_ok_iff.mpr htimer, ?_⟩
    refine bind_eq_ok_iff.mpr ⟨triggerTime, parseNonNegative_eq_ok_iff.mpr htrigger, ?_⟩
    exact bind_eq_ok_iff.mpr ⟨callback, parseCallback_eq_ok_iff.mpr hcallback, rfl⟩

theorem parseParametersGet_eq_ok_iff {argv : List JsValue} {callback : Option JsRef} :
    parseParametersGet argv = .ok callback ↔
      (argv.length = 1 → CallbackAt argv 0 callback) ∧ (argv.length ≠ 1 → callback = none) := by
  unfold parseParametersGet
  split
  · rename_i hlength
    rw [parseCallback_eq_ok_iff]
    exact ⟨fun h => ⟨fun _ => h, fun hne => absurd hlength hne⟩, fun h => h.1 hlength⟩
  · rename_i hlength
    constructor
    · intro h
      cases h
      exact ⟨fun heq => absurd heq hlength, fun _ => rfl⟩
    · rintro ⟨_, h⟩
      rw [h hlength]
      rfl

theorem JsValue.isTrue_iff {value : JsValue} : value.isTrue = true ↔ value = .boolean true := by
  cases value <;> simp [JsValue.isTrue]

/-- What `ParseParametersGetNA` reads is what is asked for. -/
theorem parseParametersGetNA_asks (argv : List JsValue) :
    Asks napi argv (parseParametersGetNA napi argv).1 (parseParametersGetNA napi argv).2 := by
  match argv with
  | [] => exact ⟨by simp [parseParametersGetNA], by simp [parseParametersGetNA]⟩
  | [value] =>
    cases value with
    | function id =>
      exact ⟨by simp [parseParametersGetNA],
        by simp [parseParametersGetNA, eq_comm]⟩
    | _ => exact ⟨by simp [parseParametersGetNA, JsValue.isTrue], by simp [parseParametersGetNA]⟩
  | [first, second] =>
    exact ⟨by simp [parseParametersGetNA, JsValue.isTrue_iff],
      by simp [parseParametersGetNA]⟩
  | _ :: _ :: _ :: _ =>
    exact ⟨by simp [parseParametersGetNA], by simp [parseParametersGetNA]⟩

theorem Asks.unique {argv : List JsValue} {isNano isNano' : Bool}
    {callback callback' : Option JsRef} (h : Asks napi argv isNano callback)
    (h' : Asks napi argv isNano' callback') :
    isNano = isNano' ∧ callback = callback' :=
  ⟨Bool.eq_iff_iff.mpr (h.isNano.trans h'.isNano.symm),
    Option.ext fun ref => (h.callback ref).trans (h'.callback ref).symm⟩

/-- **What is accepted.** A call goes through, and becomes this call of the client with this
    callback, exactly when its arguments are among the accepted ones: the places that are read have
    values of their types, numbers are not negative (the one that a `getTime` gives may be), the
    last place is missing or has a function; for the times, everything is accepted. -/
theorem js_parse_ok_iff (method : JsMethod) (argv : List JsValue) (call : ClientCall)
    (callback : Option JsRef) :
    method.parse napi argv = .ok (call, callback) ↔ Accepts napi method argv call callback := by
  constructor
  · intro h
    cases method with
    | createTimer =>
      obtain ⟨⟨options, callback'⟩, hparse, h⟩ := bind_eq_ok_iff.mp h
      cases h
      obtain ⟨⟨value, harg, hread⟩, hcallback⟩ := first_then_callback.mp hparse
      obtain ⟨properties, wrapped, rfl, hoptions⟩ := timerOptions_eq_ok_iff.mp hread
      exact .createTimer argv properties wrapped options callback harg hoptions hcallback
    | startTimer =>
      obtain ⟨⟨⟨timerId, triggerTime⟩, callback'⟩, hparse, h⟩ := bind_eq_ok_iff.mp h
      cases h
      obtain ⟨⟨timer, harg0, htimer⟩, ⟨trigger, harg1, htrigger⟩, hcallback⟩ :=
        parseParametersByStartTimer_eq_ok_iff.mp hparse
      exact .startTimer argv timer trigger timerId triggerTime callback harg0 htimer harg1 htrigger
        hcallback
    | stopTimer =>
      obtain ⟨⟨timerId, callback'⟩, hparse, h⟩ := bind_eq_ok_iff.mp h
      cases h
      obtain ⟨⟨timer, harg, htimer⟩, hcallback⟩ := parseTimer_eq_ok_iff.mp hparse
      exact .stopTimer argv timer timerId callback harg htimer hcallback
    | destroyTimer =>
      obtain ⟨⟨timerId, callback'⟩, hparse, h⟩ := bind_eq_ok_iff.mp h
      cases h
      obtain ⟨⟨timer, harg, htimer⟩, hcallback⟩ := parseTimer_eq_ok_iff.mp hparse
      exact .destroyTimer argv timer timerId callback harg htimer hcallback
    | setTime =>
      obtain ⟨⟨times, callback'⟩, hparse, h⟩ := bind_eq_ok_iff.mp h
      cases h
      obtain ⟨⟨value, harg, hread⟩, hcallback⟩ := first_then_callback.mp hparse
      exact .setTime argv value times callback harg ((timesOf_eq_ok_iff napi).mp hread) hcallback
    | setTimezone =>
      obtain ⟨⟨timezoneId, callback'⟩, hparse, h⟩ := bind_eq_ok_iff.mp h
      cases h
      obtain ⟨⟨value, harg, hread⟩, hcallback⟩ := first_then_callback.mp hparse
      obtain ⟨string, rfl, rfl⟩ := (timezoneOf_eq_ok_iff napi).mp hread
      exact .setTimezone argv string callback harg hcallback
    | getCurrentTime =>
      cases h
      exact .getCurrentTime argv _ _ (parseParametersGetNA_asks napi argv)
    | getRealActiveTime =>
      cases h
      exact .getRealActiveTime argv _ _ (parseParametersGetNA_asks napi argv)
    | getRealTime =>
      cases h
      exact .getRealTime argv _ _ (parseParametersGetNA_asks napi argv)
    | getDate =>
      obtain ⟨callback', hparse, h⟩ := bind_eq_ok_iff.mp h
      cases h
      obtain ⟨hcallback, hother⟩ := parseParametersGet_eq_ok_iff.mp hparse
      exact .getDate argv callback hcallback hother
    | getTimezone =>
      obtain ⟨callback', hparse, h⟩ := bind_eq_ok_iff.mp h
      cases h
      obtain ⟨hcallback, hother⟩ := parseParametersGet_eq_ok_iff.mp hparse
      exact .getTimezone argv callback hcallback hother
  · intro h
    cases h with
    | createTimer _ properties wrapped options _ harg hoptions hcallback =>
      have hread := timerOptions_eq_ok_iff.mpr ⟨properties, wrapped, rfl, hoptions⟩
      exact bind_eq_ok_iff.mpr ⟨_, first_then_callback.mpr ⟨⟨_, harg, hread⟩, hcallback⟩, rfl⟩
    | startTimer _ timer trigger _ _ _ htimer htimerId htrigger htriggerTime hcallback =>
      exact bind_eq_ok_iff.mpr ⟨_, parseParametersByStartTimer_eq_ok_iff.mpr
        ⟨⟨timer, htimer, htimerId⟩, ⟨trigger, htrigger, htriggerTime⟩, hcallback⟩, rfl⟩
    | stopTimer _ timer _ _ htimer htimerId hcallback =>
      exact bind_eq_ok_iff.mpr
        ⟨_, parseTimer_eq_ok_iff.mpr ⟨⟨timer, htimer, htimerId⟩, hcallback⟩, rfl⟩
    | destroyTimer _ timer _ _ htimer htimerId hcallback =>
      exact bind_eq_ok_iff.mpr
        ⟨_, parseTimer_eq_ok_iff.mpr ⟨⟨timer, htimer, htimerId⟩, hcallback⟩, rfl⟩
    | setTime _ value _ _ harg htime hcallback =>
      have hread := (timesOf_eq_ok_iff napi).mpr htime
      exact bind_eq_ok_iff.mpr
        ⟨_, first_then_callback.mpr ⟨⟨value, harg, hread⟩, hcallback⟩, rfl⟩
    | setTimezone _ string _ harg hcallback =>
      have hread := (timezoneOf_eq_ok_iff napi).mpr ⟨string, rfl, rfl⟩
      exact bind_eq_ok_iff.mpr ⟨_, first_then_callback.mpr ⟨⟨_, harg, hread⟩, hcallback⟩, rfl⟩
    | getDate _ _ hcallback hother =>
      exact bind_eq_ok_iff.mpr ⟨_, parseParametersGet_eq_ok_iff.mpr ⟨hcallback, hother⟩, rfl⟩
    | getTimezone _ _ hcallback hother =>
      exact bind_eq_ok_iff.mpr ⟨_, parseParametersGet_eq_ok_iff.mpr ⟨hcallback, hother⟩, rfl⟩
    | getCurrentTime _ isNano _ hasks =>
      obtain ⟨rfl, rfl⟩ := hasks.unique napi (parseParametersGetNA_asks napi argv)
      rfl
    | getRealActiveTime _ isNano _ hasks =>
      obtain ⟨rfl, rfl⟩ := hasks.unique napi (parseParametersGetNA_asks napi argv)
      rfl
    | getRealTime _ isNano _ hasks =>
      obtain ⟨rfl, rfl⟩ := hasks.unique napi (parseParametersGetNA_asks napi argv)
      rfl

end

end TimeService
