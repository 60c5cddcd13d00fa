import Buffet.Error
import Buffet.Values

/-! # The `Manager` D-Bus handlers (manager.cc)

Each handler answers one method call on its `DBusMethodResponse`. Its collaborators
(`DeviceRegistrationInfo`, `StateManager`, `CommandInstance::FromJson`, the JSON reader and
writer) are not in this repository's sources; they are parameters, so that every result holds
for every behaviour of them.
-/

namespace Buffet

/-! ## Replies and faults -/

/-- What a handler sends on its `DBusMethodResponse`: `Return` with the method's out arguments,
or `ReplyWithError` with a raw `const Error*`, which may be null. What the library does with a
null one is not in src/: the reply is recorded as sent, and `Reply.Sound` tells it apart. -/
inductive Reply
  | «return» (outArgs : List String)
  | replyWithError (error : ErrorPtr)
  deriving DecidableEq, Repr

/-- Undefined behaviour a handler can run into. -/
inductive Fault
  | nullDereference
  | intOverflow
  deriving DecidableEq, Repr

/-- `ReplyWithError(location, domain, code, message)` makes an error of one link and replies
with it. -/
def Reply.withNewError (location : Location) (domain code message : String) : Reply :=
  .replyWithError (Error.addTo none location domain code message)

/-- A reply the caller can act on: a value, or an error that is not null. -/
def Reply.Sound : Reply → Prop
  | .return _ => True
  | .replyWithError error => error.isSome

/-- The response was completed exactly once, with a sound reply. -/
def RepliesOnce (replies : List Reply) : Prop := ∃ r, replies = [r] ∧ r.Sound

@[simp] theorem Reply.sound_return (outArgs : List String) : (Reply.return outArgs).Sound :=
  trivial

@[simp] theorem Reply.sound_replyWithError (error : ErrorPtr) :
    (Reply.replyWithError error).Sound ↔ error.isSome := Iff.rfl

@[simp] theorem repliesOnce_singleton (r : Reply) : RepliesOnce [r] ↔ r.Sound := by
  simp [RepliesOnce]

/-- A handler that can fault did not, and completed its response exactly once. -/
def CompletesOnce {σ : Type} : Except Fault (σ × List Reply) → Prop
  | .ok (_, replies) => RepliesOnce replies
  | .error _ => False

@[simp] theorem completesOnce_ok {σ : Type} (s : σ) (replies : List Reply) :
    CompletesOnce (.ok (s, replies)) ↔ RepliesOnce replies := Iff.rfl

/-- `error->` on an `ErrorPtr`. -/
def deref : ErrorPtr → Except Fault Error
  | some e => .ok e
  | none => .error .nullDereference

/-! The handlers run in `Except Fault`; these evaluate their `do` blocks. -/

@[simp] theorem ok_bind {ε α β : Type} (a : α) (f : α → Except ε β) :
    (Except.ok a >>= f) = f a := rfl

@[simp] theorem error_bind {ε α β : Type} (e : ε) (f : α → Except ε β) :
    (Except.error e >>= f) = .error e := rfl

@[simp] theorem pure_eq_ok {ε α : Type} (a : α) : (pure a : Except ε α) = .ok a := rfl

/-- `FROM_HERE` in manager.cc. -/
def fromHere (functionName : String) (lineNumber : Int) : Location :=
  ⟨functionName, "buffet/manager.cc", lineNumber⟩

namespace Errors

/-- `chromeos::errors::dbus::kDomain`. -/
def Dbus.kDomain : String := "dbus"

/-- `chromeos::errors::json::kDomain`. -/
def Json.kDomain : String := "json_parser"

/-- `chromeos::errors::json::kParseError`. -/
def Json.kParseError : String := "json_parse_error"

end Errors

/-- `DBUS_ERROR_INVALID_ARGS`. -/
def dbusErrorInvalidArgs : String := "org.freedesktop.DBus.Error.InvalidArgs"

/-! ## Collaborators -/

/-- What a collaborator gives back from one call: its result, and the entries it added to the
`ErrorPtr` it was handed, by `AddTo`, first added first. -/
structure Answer (α : Type) where
  result : α
  added : List ErrorEntry

/-- `DeviceRegistrationInfo` in state `δ`, by what it answers to the calls `Manager` makes. -/
structure DeviceRegistrationInfo (δ Value : Type) where
  checkRegistration : δ → Answer Bool × δ
  getDeviceId : δ → String
  getDeviceInfo : δ → Answer (Option Value) × δ
  registerDevice : δ → StdMap String String → Answer String × δ

/-- `base::Time`, in microseconds. -/
abbrev Time := Int

/-- `StateManager` in state `τ`. `GetStateValuesAsJson` serializes the current values (so the
spec says), and leaves them as they are. -/
structure StateManager (τ Value : Type) where
  setPropertyValue : τ → String → Any → Time → Answer Bool × τ
  getStateValuesAsJson : τ → Answer (Option Value)

/-- A `CommandInstance`: its id (`SetID`) and what `FromJson` made of the request, which
`Manager` passes on without looking at it. -/
structure CommandInstance (ι : Type) where
  id : String
  command : ι

/-- Modelled from the spec: `CommandManager` (command_manager.cc is not in src/). It owns the
command dictionary and the live commands keyed by id; `AddCommand` inserts, `FindCommand` looks
an id up. -/
structure CommandManager (Dict ι : Type) where
  dictionary : Dict
  commands : StdMap String (CommandInstance ι)

namespace CommandManager

variable {Dict ι : Type}

/-- Modelled from the spec: `CommandManager::AddCommand` inserts into the live set by id. -/
def addCommand (m : CommandManager Dict ι) (c : CommandInstance ι) : CommandManager Dict ι :=
  { m with commands := m.commands.emplace c.id c }

/-- Modelled from the spec: `CommandManager::FindCommand`. -/
def findCommand (m : CommandManager Dict ι) (id : String) : Option (CommandInstance ι) :=
  m.commands.find id

end CommandManager

/-! ## The handlers -/

section Handlers

variable {δ τ Value Dict ι : Type}

-- `kErrorDomainGCD` is declared by device_registration_info.h, which is not in src/.
variable (kErrorDomainGCD : String)

def checkDeviceRegistered (deviceInfo : DeviceRegistrationInfo δ Value) (d : δ) :
    Except Fault (δ × List Reply) := do
  let (answer, d) := deviceInfo.checkRegistration d
  let error := ErrorPtr.addEntries none answer.added
  let registered := answer.result
  if !registered then
    if !(← deref error).hasError kErrorDomainGCD "device_not_registered" then
      return (d, [.replyWithError error])
  return (d, [.return [if registered then deviceInfo.getDeviceId d else ""]])

def getDeviceInfo (writeJson : Value → String) (deviceInfo : DeviceRegistrationInfo δ Value)
    (d : δ) : δ × List Reply :=
  let (answer, d) := deviceInfo.getDeviceInfo d
  let error := ErrorPtr.addEntries none answer.added
  match answer.result with
  | none => (d, [.replyWithError error])
  | some info => (d, [.return [writeJson info]])

/-- The loop of `RegisterDevice` over `params`: `none` as soon as a value is not a string. -/
def strParamsOf : List (String × Any) → StdMap String String → Option (StdMap String String)
  | [], strParams => some strParams
  | (key, value) :: rest, strParams =>
    if !value.isTypeCompatibleString then none
    else strParamsOf rest (strParams.emplaceHint key value.getString)

/-- The reply of `RegisterDevice` once `DeviceRegistrationInfo::RegisterDevice` answered. -/
def registrationReply (answer : Answer String) : Reply :=
  let deviceId := answer.result
  let error := ErrorPtr.addEntries none answer.added
  if !deviceId.isEmpty then .return [deviceId]
  else
    let error := if error.isNone then
      Error.addTo error (fromHere "RegisterDevice" 138) kErrorDomainGCD "internal_error"
        "device_id empty but error not set"
    else error
    .replyWithError error

def registerDevice (deviceInfo : DeviceRegistrationInfo δ Value) (d : δ)
    (params : VariantDictionary) : δ × List Reply :=
  match strParamsOf params.entries StdMap.empty with
  | none =>
    (d, [.withNewError (fromHere "RegisterDevice" 122) Errors.Dbus.kDomain dbusErrorInvalidArgs
      "String value expected"])
  | some strParams =>
    let (answer, d) := deviceInfo.registerDevice d strParams
    (d, [registrationReply kErrorDomainGCD answer])

/-- The loop of `UpdateState`: each property in turn, all with the one timestamp and the one
`ErrorPtr`; a failure is remembered and the loop goes on. -/
def setProperties (stateManager : StateManager τ Value) (timestamp : Time) :
    List (String × Any) → τ × ErrorPtr × Bool → τ × ErrorPtr × Bool
  | [], acc => acc
  | (name, value) :: rest, (s, error, allSuccess) =>
    let (answer, s) := stateManager.setPropertyValue s name value timestamp
    setProperties stateManager timestamp rest
      (s, error.addEntries answer.added, if !answer.result then false else allSuccess)

/-- `UpdateState`; `timestamp` is what `base::Time::Now()` read. -/
def updateState (stateManager : StateManager τ Value) (s : τ) (timestamp : Time)
    (propertySet : VariantDictionary) : τ × List Reply :=
  let (s, error, allSuccess) := setProperties stateManager timestamp propertySet.entries
    (s, none, true)
  if !allSuccess then (s, [.replyWithError error]) else (s, [.return []])

/-- `GetState(&error, &state)`: the state as JSON text, or `false` and the error. -/
def getState (writeJson : Value → String) (stateManager : StateManager τ Value) (s : τ) :
    Except ErrorPtr String :=
  let answer := stateManager.getStateValuesAsJson s
  match answer.result with
  | none => .error (ErrorPtr.addEntries none answer.added)
  | some json => .ok (writeJson json)

/-- `INT_MAX` for a 32-bit `int`. -/
def intMax : Int := 2147483647

/-- `++next_id` on an `int`: past `INT_MAX` it is undefined behaviour. -/
def preIncrement (n : Int) : Except Fault Int :=
  if n < intMax then .ok (n + 1) else .error .intOverflow

/-- `AddCommand`. `nextId` is the function's `static int next_id`, which every `Manager` of the
process shares. -/
def addCommand (readJson : String → Except String Value)
    (fromJson : Value → Dict → Answer (Option ι)) (nextId : Int)
    (commandManager : CommandManager Dict ι) (jsonCommand : String) :
    Except Fault ((Int × CommandManager Dict ι) × List Reply) := do
  match readJson jsonCommand with
  | .error errorMessage =>
    return ((nextId, commandManager), [.withNewError (fromHere "AddCommand" 179)
      Errors.Json.kDomain Errors.Json.kParseError errorMessage])
  | .ok value =>
    let answer := fromJson value commandManager.dictionary
    let error := ErrorPtr.addEntries none answer.added
    match answer.result with
    | none => return ((nextId, commandManager), [.replyWithError error])
    | some command =>
      let nextId ← preIncrement nextId
      let id := toString nextId
      return ((nextId, commandManager.addCommand ⟨id, command⟩), [.return [id]])

def testMethod (message : String) : String := message

def getCommand (writeJson : Value → String) (toJson : CommandInstance ι → Value)
    (commandManager : CommandManager Dict ι) (id : String) : List Reply :=
  match commandManager.findCommand id with
  | none =>
    [.withNewError (fromHere "GetCommand" 201) kErrorDomainGCD "unknown_command"
      ("Can't find command with id: " ++ id)]
  | some command => [.return [writeJson (toJson command)]]

end Handlers

end Buffet
