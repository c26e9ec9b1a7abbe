import TimeService.Service.SystemTime
import Mathlib.Control.Monad.Basic

namespace TimeService

/-!
# Parcels and requests

The IPC platform as the repository uses it: a `MessageParcel` is a typed first-in first-out queue,
and `SendRequest` runs the stub of the other side on the data parcel and brings back its return
value and its reply.

The platform may fail at every point: a parcel has room for a number of writes (`none` for as many
as one likes), and an `IpcLine` may lose the request or the reply.  What a read of something else
than what was written next gives is a parameter, `Misread`.  Where it gives nothing the computation
is `failure` of `OptionT`, so that a result about a computation on such a line also says that no
such read happens.
-/

/-- What can be written into a parcel. -/
inductive ParcelType
  | interfaceToken
  | int32
  | int64
  | uint64
  | bool
  | string
  | remoteObject
deriving DecidableEq, Repr

/-- `sptr<IRemoteObject>`: a null pointer or an object. -/
abbrev RemoteObject := Option ℕ

abbrev ParcelType.Value : ParcelType → Type
  | .interfaceToken => String
  | .int32 => Int32
  | .int64 => Int64
  | .uint64 => UInt64
  | .bool => Bool
  | .string => String
  | .remoteObject => RemoteObject

/-- A value with its type. -/
structure ParcelItem where
  type : ParcelType
  value : type.Value

/-- What the platform makes of a read of another type than that of the next value, or past the last
    one: the value that is read and what is left, or nothing. -/
abbrev Misread := List ParcelItem → (type : ParcelType) → Option (type.Value × List ParcelItem)

/-- A platform that gives nothing. -/
def Misread.fails : Misread := fun _ _ => none

/-- `MessageParcel`: what has been written and not read yet, how many writes still succeed, and how
    the platform reads. -/
structure MessageParcel where
  items : List ParcelItem
  room : Option ℕ
  misread : Misread

/-- A new parcel. -/
def MessageParcel.new (room : Option ℕ) (misread : Misread) : MessageParcel := ⟨[], room, misread⟩

/-- The `Write` functions: `none` is their answer false. -/
def MessageParcel.write (p : MessageParcel) (item : ParcelItem) : Option MessageParcel :=
  match p.room with
  | none => some { p with items := p.items ++ [item] }
  | some 0 => none
  | some (n + 1) => some { p with items := p.items ++ [item], room := some n }

/-- A write after a write, up to the first that fails. -/
def MessageParcel.writeAll (p : MessageParcel) (items : List ParcelItem) : Option MessageParcel :=
  items.foldlM MessageParcel.write p

/-- There is room for `count` writes. -/
def RoomFor (room : Option ℕ) (count : ℕ) : Prop := ∀ n, room = some n → count ≤ n

instance (room : Option ℕ) (count : ℕ) : Decidable (RoomFor room count) :=
  match room with
  | none => isTrue (fun _ h => nomatch h)
  | some n =>
    decidable_of_iff (count ≤ n) ⟨fun h _ heq => Option.some.inj heq ▸ h, fun h => h n rfl⟩

@[simp] theorem roomFor_none (count : ℕ) : RoomFor none count := fun _ h => nomatch h

@[simp] theorem roomFor_some (n count : ℕ) : RoomFor (some n) count ↔ count ≤ n :=
  ⟨fun h => h n rfl, fun h _ heq => Option.some.inj heq ▸ h⟩

/-- All writes succeed, or one of them has no room. -/
theorem MessageParcel.writeAll_eq (before items : List ParcelItem) (room : Option ℕ)
    (misread : Misread) :
    MessageParcel.writeAll ⟨before, room, misread⟩ items
      = if RoomFor room items.length then
          some ⟨before ++ items, room.map (· - items.length), misread⟩
        else none := by
  unfold MessageParcel.writeAll
  induction items generalizing before room with
  | nil => cases room <;> simp
  | cons item items ih =>
    rw [List.foldlM_cons]
    rcases room with _ | _ | n
    · show List.foldlM MessageParcel.write ⟨before ++ [item], none, misread⟩ items = _
      rw [ih]
      simp
    · simp [MessageParcel.write]
    · show List.foldlM MessageParcel.write ⟨before ++ [item], some n, misread⟩ items = _
      rw [ih]
      simp

variable {m : Type → Type} [Monad m]

/-- A read of something else than what comes next. -/
def MessageParcel.readOther (p : MessageParcel) (type : ParcelType) :
    OptionT m (type.Value × MessageParcel) :=
  match p.misread p.items type with
  | some (value, items) => pure (value, { p with items })
  | none => failure

/-- The `Read` functions: the next value, if it is of the type that is read. -/
def MessageParcel.read (p : MessageParcel) (type : ParcelType) :
    OptionT m (type.Value × MessageParcel) :=
  match p.items with
  | [] => p.readOther type
  | item :: items =>
    if h : item.type = type then pure (h ▸ item.value, { p with items }) else p.readOther type

/-- What was written is read. -/
@[simp] theorem MessageParcel.read_cons (type : ParcelType) (value : type.Value)
    (items : List ParcelItem) (room : Option ℕ) (misread : Misread) :
    (MessageParcel.read ⟨⟨type, value⟩ :: items, room, misread⟩ type : OptionT m _)
      = pure (value, ⟨items, room, misread⟩) := by
  unfold MessageParcel.read
  exact dif_pos rfl

/-! ### Requests -/

/-- `ERR_OK`, which is also the platform's `ERR_NONE`. -/
def errOk : Int32 := 0

abbrev errNone : Int32 := errOk

/-- The place of an error in the enumeration `TimeError`, which begins with `E_TIME_OK`. -/
def TimeError.index : TimeError → Int32
  | .saDied => 1
  | .readParcelError => 2
  | .writeParcelError => 3
  | .publishFail => 4
  | .transactError => 5
  | .dealFailed => 6
  | .parametersInvalid => 7
  | .setRtcFailed => 8
  | .notFound => 9
  | .noPermission => 10

/-- The error code.  `TIME_ERR_OFFSET` comes from the platform's numbering of its subsystems. -/
def TimeError.code (offset : Int32) (e : TimeError) : Int32 := offset + e.index

/-- `OnRemoteRequest` of a stub: a code, the data and the reply parcel. -/
abbrev RemoteStub (m : Type → Type) :=
  UInt32 → MessageParcel → MessageParcel → OptionT m (Int32 × MessageParcel)

/-- What one request meets: the room of the data parcel and of the reply parcel, the error with
    which the request or the reply is lost, and how parcels are read. -/
structure IpcLine where
  dataRoom : Option ℕ
  replyRoom : Option ℕ
  requestError : Option { e : Int32 // e ≠ errNone }
  replyError : Option { e : Int32 // e ≠ errNone }
  misread : Misread

/-- A platform on which no write and no request fails. -/
def IpcLine.reliable : IpcLine := ⟨none, none, none, none, .fails⟩

/-- `SendRequest`. -/
def IpcLine.sendRequest (line : IpcLine) (stub : RemoteStub m) (code : UInt32)
    (data : MessageParcel) : OptionT m (Int32 × MessageParcel) :=
  match line.requestError with
  | some e => pure (e.1, .new none line.misread)
  | none => do
    let answer ← stub code data (.new line.replyRoom line.misread)
    match line.replyError with
    | some e => pure (e.1, .new none line.misread)
    | none => pure answer

/-- The shape of every proxy function: the interface token and the arguments are written, the
    request is sent, and the answer is made of the result and the reply. -/
def IpcLine.request {α : Type} (line : IpcLine) (stub : RemoteStub m) (descriptor : String)
    (code : UInt32) (arguments : List ParcelItem) (writeError : α)
    (answer : Int32 → MessageParcel → OptionT m α) : OptionT m α :=
  match (MessageParcel.new line.dataRoom line.misread).writeAll
      (⟨.interfaceToken, descriptor⟩ :: arguments) with
  | none => pure writeError
  | some data => do
    let result ← line.sendRequest stub code data
    answer result.1 result.2

/-- A request on a reliable line: the stub runs once, on the token and the arguments. -/
theorem IpcLine.request_reliable [LawfulMonad m] {α : Type} (stub : RemoteStub m)
    (descriptor : String) (code : UInt32) (arguments : List ParcelItem) (writeError : α)
    (answer : Int32 → MessageParcel → OptionT m α) :
    IpcLine.reliable.request stub descriptor code arguments writeError answer
      = stub code ⟨⟨.interfaceToken, descriptor⟩ :: arguments, none, .fails⟩ ⟨[], none, .fails⟩ >>=
          fun result => answer result.1 result.2 := by
  have hdata : (MessageParcel.new IpcLine.reliable.dataRoom IpcLine.reliable.misread).writeAll
      (⟨.interfaceToken, descriptor⟩ :: arguments)
      = some ⟨⟨.interfaceToken, descriptor⟩ :: arguments, none, .fails⟩ := by
    show MessageParcel.writeAll ⟨[], none, .fails⟩ _ = _
    rw [MessageParcel.writeAll_eq, if_pos (roomFor_none _)]
    rfl
  unfold IpcLine.request IpcLine.sendRequest
  rw [hdata]
  simp only [IpcLine.reliable, MessageParcel.new, bind_pure]

/-- The request gets through with that many writes. -/
def IpcLine.Sends (line : IpcLine) (count : ℕ) : Prop :=
  line.requestError.isNone ∧ RoomFor line.dataRoom count

/-- The reply gets through with that many writes. -/
def IpcLine.Returns (line : IpcLine) (count : ℕ) : Prop :=
  line.replyError.isNone ∧ RoomFor line.replyRoom count

instance (line : IpcLine) (count : ℕ) : Decidable (line.Sends count) :=
  inferInstanceAs (Decidable (_ ∧ _))

instance (line : IpcLine) (count : ℕ) : Decidable (line.Returns count) :=
  inferInstanceAs (Decidable (_ ∧ _))

/-- A request on any line, for a proxy function that answers every error alike: the stub does not
    run, or it runs once and its answer may be lost. -/
theorem IpcLine.request_of_lost [LawfulMonad m] {α : Type} (line : IpcLine) (stub : RemoteStub m)
    (descriptor : String) (code : UInt32) (arguments : List ParcelItem) {lost : α}
    {answer : Int32 → MessageParcel → OptionT m α}
    (hlost : ∀ e, e ≠ errNone → ∀ reply, answer e reply = pure lost) :
    line.request stub descriptor code arguments lost answer
      = if line.Sends (arguments.length + 1) then
          stub code ⟨⟨.interfaceToken, descriptor⟩ :: arguments,
              line.dataRoom.map (· - (arguments.length + 1)), line.misread⟩
              ⟨[], line.replyRoom, line.misread⟩ >>= fun result =>
            if line.replyError.isNone then answer result.1 result.2 else pure lost
        else pure lost := by
  unfold IpcLine.request MessageParcel.new IpcLine.Sends
  rw [MessageParcel.writeAll_eq]
  by_cases hroom : RoomFor line.dataRoom (arguments.length + 1)
  · simp only [List.length_cons, hroom, if_true, and_true, List.nil_append]
    unfold IpcLine.sendRequest
    rcases line.requestError with _ | ⟨e, he⟩
    · simp only [Option.isNone_none, if_true, bind_assoc]
      apply bind_congr
      intro result
      rcases line.replyError with _ | ⟨e, he⟩
      · simp
      · simp [hlost e he]
    · simp [hlost e he]
  · simp [hroom]

end TimeService
