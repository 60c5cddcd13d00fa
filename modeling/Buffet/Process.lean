import Buffet.Manager.Commands
import Buffet.Manager.Registration

/-! # The process: `Manager` instances and the calls they handle

A `Manager` owns a `DeviceRegistrationInfo`, a `StateManager` and a `CommandManager`, and the
`DeviceRegistrationInfo` was built with pointers to the other two. `AddCommand` keeps its counter
in a function-local `static int`, so every `Manager` of the process draws from the one counter.
A run is a sequence of D-Bus calls, each to one `Manager`; a fault stops it.
-/

namespace Buffet

variable {δ τ Value Dict ι : Type}

/-- The members of a `Manager` its handlers use: `device_info_`, `state_manager_` and
`command_manager_`, each as the state of the object it points to. -/
structure Manager (δ τ Dict ι : Type) where
  deviceInfo : δ
  stateManager : τ
  commandManager : CommandManager Dict ι

/-- What the handlers call that src/ does not define, and `kErrorDomainGCD`. The
`DeviceRegistrationInfo` acts on the whole `Manager`, since it holds its `CommandManager` and
its `StateManager`. -/
structure Collaborators (δ τ Value Dict ι : Type) where
  kErrorDomainGCD : String
  deviceInfo : DeviceRegistrationInfo (Manager δ τ Dict ι) Value
  stateManager : StateManager τ Value
  readJson : String → Except String Value
  fromJson : Value → Dict → Answer (Option ι)
  writeJson : Value → String
  toJson : CommandInstance ι → Value

/-- A call of a `Manager` method, with its arguments; `updateState` carries the time
`base::Time::Now()` reads. Six methods answer on a `DBusMethodResponse`; `GetState` and
`TestMethod` are synchronous, and the generated adaptor replies with what they return. -/
inductive Call
  | checkDeviceRegistered
  | getDeviceInfo
  | registerDevice (params : VariantDictionary)
  | updateState (timestamp : Time) (propertySet : VariantDictionary)
  | addCommand (jsonCommand : String)
  | getCommand (id : String)
  | getState
  | testMethod (message : String)

/-- The reply the generated adaptor makes of a synchronous method: `Return` with its out
argument, or, when it returned `false`, `ReplyWithError` with the error it filled in. -/
def Reply.ofExcept : Except ErrorPtr String → Reply
  | .ok out => .return [out]
  | .error error => .replyWithError error

def Call.returnedId : Call → List Reply → Option String
  | .addCommand _, [.return [id]] => some id
  | _, _ => none

namespace Manager

variable (c : Collaborators δ τ Value Dict ι)

/-- The method `call` names, run on `m` with `next_id` as it stands: the new `next_id`, the
new `m` and the replies. -/
def handle (nextId : Int) (m : Manager δ τ Dict ι) :
    Call → Except Fault ((Int × Manager δ τ Dict ι) × List Reply)
  | .checkDeviceRegistered => do
    let (m, replies) ← checkDeviceRegistered c.kErrorDomainGCD c.deviceInfo m
    return ((nextId, m), replies)
  | .getDeviceInfo =>
    let r := getDeviceInfo c.writeJson c.deviceInfo m
    .ok ((nextId, r.1), r.2)
  | .registerDevice params =>
    let r := registerDevice c.kErrorDomainGCD c.deviceInfo m params
    .ok ((nextId, r.1), r.2)
  | .updateState timestamp propertySet =>
    let r := updateState c.stateManager m.stateManager timestamp propertySet
    .ok ((nextId, { m with stateManager := r.1 }), r.2)
  | .addCommand jsonCommand => do
    let ((nextId, commandManager), replies) ←
      addCommand c.readJson c.fromJson nextId m.commandManager jsonCommand
    return ((nextId, { m with commandManager := commandManager }), replies)
  | .getCommand id =>
    .ok ((nextId, m), getCommand c.kErrorDomainGCD c.writeJson c.toJson m.commandManager id)
  | .getState =>
    .ok ((nextId, m), [Reply.ofExcept (getState c.writeJson c.stateManager m.stateManager)])
  | .testMethod message => .ok ((nextId, m), [.return [testMethod message]])

/-- What a call does, call by call: the `next_id`, the `Manager` and the replies it leaves, or
the fault it runs into. -/
inductive Handled (nextId : Int) (m : Manager δ τ Dict ι) :
    Call → Except Fault ((Int × Manager δ τ Dict ι) × List Reply) → Prop
  | checkDeviceRegistered {replies : List Reply}
      (h : checkDeviceRegistered c.kErrorDomainGCD c.deviceInfo m =
        .ok ((c.deviceInfo.checkRegistration m).2, replies)) :
      Handled nextId m .checkDeviceRegistered
        (.ok ((nextId, (c.deviceInfo.checkRegistration m).2), replies))
  | nullDereference
      (h : checkDeviceRegistered c.kErrorDomainGCD c.deviceInfo m = .error .nullDereference) :
      Handled nextId m .checkDeviceRegistered (.error .nullDereference)
  | getDeviceInfo :
      Handled nextId m .getDeviceInfo
        (.ok ((nextId, (getDeviceInfo c.writeJson c.deviceInfo m).1),
          (getDeviceInfo c.writeJson c.deviceInfo m).2))
  | registerDevice (params : VariantDictionary) :
      Handled nextId m (.registerDevice params)
        (.ok ((nextId, (registerDevice c.kErrorDomainGCD c.deviceInfo m params).1),
          (registerDevice c.kErrorDomainGCD c.deviceInfo m params).2))
  | updateState (timestamp : Time) (propertySet : VariantDictionary) :
      Handled nextId m (.updateState timestamp propertySet)
        (.ok ((nextId, { m with
            stateManager := (updateState c.stateManager m.stateManager timestamp propertySet).1 }),
          (updateState c.stateManager m.stateManager timestamp propertySet).2))
  | addCommandRejected (jsonCommand : String) (error : ErrorPtr)
      (h : parseCommand c.readJson c.fromJson m.commandManager.dictionary jsonCommand =
        .error error) :
      Handled nextId m (.addCommand jsonCommand) (.ok ((nextId, m), [.replyWithError error]))
  | addCommandAccepted (jsonCommand : String) (command : ι)
      (h : parseCommand c.readJson c.fromJson m.commandManager.dictionary jsonCommand =
        .ok command) (hn : nextId < intMax) :
      Handled nextId m (.addCommand jsonCommand)
        (.ok ((nextId + 1, { m with
            commandManager := m.commandManager.addCommand ⟨toString (nextId + 1), command⟩ }),
          [.return [toString (nextId + 1)]]))
  | addCommandOverflow (jsonCommand : String) (command : ι)
      (h : parseCommand c.readJson c.fromJson m.commandManager.dictionary jsonCommand =
        .ok command) (hn : intMax ≤ nextId) :
      Handled nextId m (.addCommand jsonCommand) (.error .intOverflow)
  | getCommand (id : String) :
      Handled nextId m (.getCommand id)
        (.ok ((nextId, m), getCommand c.kErrorDomainGCD c.writeJson c.toJson m.commandManager id))
  | getState :
      Handled nextId m .getState
        (.ok ((nextId, m), [Reply.ofExcept (getState c.writeJson c.stateManager m.stateManager)]))
  | testMethod (message : String) :
      Handled nextId m (.testMethod message) (.ok ((nextId, m), [.return [testMethod message]]))

theorem handle_handled (nextId : Int) (m : Manager δ τ Dict ι) (call : Call) :
    Handled c nextId m call (m.handle c nextId call) := by
  cases call with
  | checkDeviceRegistered =>
    rcases checkDeviceRegistered_cases c.kErrorDomainGCD c.deviceInfo m with hc | ⟨rs, hc⟩
    · simpa only [handle, hc, error_bind] using .nullDereference hc
    · simpa only [handle, hc, ok_bind, pure_eq_ok] using .checkDeviceRegistered hc
  | addCommand jsonCommand =>
    simp only [handle, addCommand_eq]
    rcases hp : parseCommand c.readJson c.fromJson m.commandManager.dictionary jsonCommand
      with error | command
    · -- Rejected: the `Manager` is put back as it was.
      exact .addCommandRejected jsonCommand error hp
    · by_cases hn : nextId < intMax
      · simpa only [hn, if_true, ok_bind, pure_eq_ok]
          using .addCommandAccepted jsonCommand command hp hn
      · simpa only [hn, if_false, error_bind]
          using .addCommandOverflow jsonCommand command hp (not_lt.1 hn)
  | _ => constructor

theorem handle_ok {nextId n : Int} {m m' : Manager δ τ Dict ι} {call : Call}
    {replies : List Reply} (h : m.handle c nextId call = .ok ((n, m'), replies)) :
    Handled c nextId m call (.ok ((n, m'), replies)) :=
  h ▸ handle_handled c nextId m call

theorem handle_error {nextId : Int} {m : Manager δ τ Dict ι} {call : Call} {fault : Fault}
    (h : m.handle c nextId call = .error fault) : Handled c nextId m call (.error fault) :=
  h ▸ handle_handled c nextId m call

theorem handle_nextId {nextId n : Int} {m m' : Manager δ τ Dict ι} {call : Call}
    {replies : List Reply} (h : m.handle c nextId call = .ok ((n, m'), replies)) :
    (n = nextId ∧ call.returnedId replies = none) ∨
      (nextId < intMax ∧ n = nextId + 1 ∧
        call.returnedId replies = some (toString (nextId + 1))) := by
  cases handle_ok c h with
  | addCommandAccepted _ _ _ hn => exact .inr ⟨hn, rfl, rfl⟩
  | _ => exact .inl ⟨rfl, rfl⟩

theorem handle_intOverflow {nextId : Int} {m : Manager δ τ Dict ι} {call : Call}
    (h : m.handle c nextId call = .error .intOverflow) :
    ∃ jsonCommand command, call = .addCommand jsonCommand ∧
      parseCommand c.readJson c.fromJson m.commandManager.dictionary jsonCommand = .ok command ∧
      intMax ≤ nextId := by
  cases handle_error c h with
  | addCommandOverflow jsonCommand command hp hn => exact ⟨jsonCommand, command, rfl, hp, hn⟩

end Manager

/-- The `static int next_id` of `AddCommand`, and each `Manager` of the process, by number. -/
structure Process (δ τ Dict ι : Type) where
  nextId : Int
  managers : Nat → Manager δ τ Dict ι

/-- How a run of calls ended: the process it left, each call it handled with that call's
replies, in order, and the fault that stopped it, if one did. -/
structure Run (δ τ Dict ι : Type) where
  process : Process δ τ Dict ι
  log : List ((Nat × Call) × List Reply)
  fault : Option Fault

def returnedIds (log : List ((Nat × Call) × List Reply)) : List String :=
  log.filterMap fun entry => entry.1.2.returnedId entry.2

theorem returnedIds_cons (entry : (Nat × Call) × List Reply)
    (log : List ((Nat × Call) × List Reply)) :
    returnedIds (entry :: log) = (entry.1.2.returnedId entry.2).toList ++ returnedIds log := by
  cases h : entry.1.2.returnedId entry.2 <;> simp [returnedIds, List.filterMap_cons, h]

namespace Process

/-- The process as it starts: a `static int` starts at zero. -/
def start (managers : Nat → Manager δ τ Dict ι) : Process δ τ Dict ι := ⟨0, managers⟩

variable (c : Collaborators δ τ Value Dict ι)

def step (p : Process δ τ Dict ι) (manager : Nat) (call : Call) :
    Except Fault (Process δ τ Dict ι × List Reply) :=
  match (p.managers manager).handle c p.nextId call with
  | .error fault => .error fault
  | .ok ((nextId, m), replies) => .ok (⟨nextId, Function.update p.managers manager m⟩, replies)

def run : Process δ τ Dict ι → List (Nat × Call) → Run δ τ Dict ι
  | p, [] => ⟨p, [], none⟩
  | p, (manager, call) :: calls =>
    match p.step c manager call with
    | .error fault => ⟨p, [], some fault⟩
    | .ok (p', replies) =>
      let r := run p' calls
      ⟨r.process, ((manager, call), replies) :: r.log, r.fault⟩

/-! ## One step -/

theorem step_ok {p p' : Process δ τ Dict ι} {manager : Nat} {call : Call} {replies : List Reply}
    (h : p.step c manager call = .ok (p', replies)) :
    ∃ m, (p.managers manager).handle c p.nextId call = .ok ((p'.nextId, m), replies) ∧
      p'.managers = Function.update p.managers manager m := by
  unfold step at h
  split at h
  · cases h
  · rename_i nextId m rs hh
    simp only [Except.ok.injEq, Prod.mk.injEq] at h
    obtain ⟨rfl, rfl⟩ := h
    exact ⟨m, hh, rfl⟩

theorem step_error {p : Process δ τ Dict ι} {manager : Nat} {call : Call} {fault : Fault}
    (h : p.step c manager call = .error fault) :
    (p.managers manager).handle c p.nextId call = .error fault := by
  unfold step at h
  split at h <;> simp_all

theorem step_addCommand_eq (p : Process δ τ Dict ι) (manager : Nat) (jsonCommand : String) :
    p.step c manager (.addCommand jsonCommand) =
      match parseCommand c.readJson c.fromJson (p.managers manager).commandManager.dictionary
          jsonCommand with
      | .error error => .ok (p, [.replyWithError error])
      | .ok command =>
        if p.nextId < intMax then
          .ok (⟨p.nextId + 1, Function.update p.managers manager
              { p.managers manager with
                commandManager := (p.managers manager).commandManager.addCommand
                  ⟨toString (p.nextId + 1), command⟩ }⟩,
            [.return [toString (p.nextId + 1)]])
        else .error .intOverflow := by
  simp only [step, Manager.handle, addCommand_eq]
  rcases parseCommand c.readJson c.fromJson (p.managers manager).commandManager.dictionary
    jsonCommand with error | command
  · -- The manager is put back as it was.
    have hm : { p.managers manager with
        commandManager := (p.managers manager).commandManager } = p.managers manager := rfl
    simp only [ok_bind, pure_eq_ok, hm, Function.update_eq_self]
  · by_cases hn : p.nextId < intMax <;> simp [hn]

theorem step_eq_error (hinfo : c.deviceInfo.SetsErrors) (p : Process δ τ Dict ι) (manager : Nat)
    (call : Call) (fault : Fault) :
    p.step c manager call = .error fault ↔
      ∃ jsonCommand command, call = .addCommand jsonCommand ∧ fault = .intOverflow ∧
        parseCommand c.readJson c.fromJson (p.managers manager).commandManager.dictionary
          jsonCommand = .ok command ∧
        intMax ≤ p.nextId := by
  constructor
  · intro h
    cases Manager.handle_error c (step_error c h) with
    | nullDereference hc =>
      -- `CheckRegistration` said why it failed, so nothing is dereferenced.
      have := checkDeviceRegistered_replies_once c.kErrorDomainGCD c.deviceInfo (p.managers manager)
        (hinfo.1 _)
      rw [hc] at this
      exact this.elim
    | addCommandOverflow jsonCommand command hp hn => exact ⟨jsonCommand, command, rfl, rfl, hp, hn⟩
  · rintro ⟨jsonCommand, command, rfl, rfl, hp, hn⟩
    simp [step_addCommand_eq, hp, not_lt.2 hn]

/-! ## Runs -/

theorem run_cons_ok {p p' : Process δ τ Dict ι} {manager : Nat} {call : Call}
    {replies : List Reply} (calls : List (Nat × Call))
    (h : p.step c manager call = .ok (p', replies)) :
    p.run c ((manager, call) :: calls) =
      ⟨(p'.run c calls).process, ((manager, call), replies) :: (p'.run c calls).log,
        (p'.run c calls).fault⟩ := by
  rw [run, h]

theorem run_cons_error {p : Process δ τ Dict ι} {manager : Nat} {call : Call} {fault : Fault}
    (calls : List (Nat × Call)) (h : p.step c manager call = .error fault) :
    p.run c ((manager, call) :: calls) = ⟨p, [], some fault⟩ := by
  rw [run, h]

/-- What a run from a process with `next_id ≤ INT_MAX` returns: the next ids in order, one per
accepted command, whatever the other calls; it overflows only at `INT_MAX`. -/
theorem run_spec (p : Process δ τ Dict ι) (hp : p.nextId ≤ intMax) (calls : List (Nat × Call)) :
    returnedIds (p.run c calls).log =
        (List.range (returnedIds (p.run c calls).log).length).map
          (fun k : Nat => toString (p.nextId + k + 1)) ∧
      (p.run c calls).process.nextId = p.nextId + (returnedIds (p.run c calls).log).length ∧
      (p.run c calls).process.nextId ≤ intMax ∧
      ((p.run c calls).fault = some .intOverflow → (p.run c calls).process.nextId = intMax) := by
  induction calls generalizing p with
  | nil => simp [run, returnedIds, hp]
  | cons call calls ih =>
    obtain ⟨manager, call⟩ := call
    rcases hs : p.step c manager call with fault | ⟨p', replies⟩
    · -- A fault: the run stops where it is.
      rw [run_cons_error c calls hs]
      refine ⟨rfl, by simp [returnedIds], hp, fun hf => ?_⟩
      cases Option.some.inj hf
      obtain ⟨-, -, -, -, hle⟩ := Manager.handle_intOverflow c (step_error c hs)
      exact le_antisymm hp hle
    obtain ⟨m, hh, -⟩ := step_ok c hs
    rw [run_cons_ok c calls hs, returnedIds_cons]
    rcases Manager.handle_nextId c hh with ⟨hn, hid⟩ | ⟨hlt, hn, hid⟩
    · -- No id: `next_id` is as it was.
      simpa only [hid, hn, Option.toList_none, List.nil_append] using ih p' (hn ▸ hp)
    · -- A new command under `next_id + 1`.
      obtain ⟨hids, hnext, hle, hfault⟩ := ih p' (by omega)
      simp only [hid, Option.toList_some, List.singleton_append, List.length_cons] at hids hnext ⊢
      refine ⟨?_, by rw [hnext, hn]; push_cast; omega, hle, hfault⟩
      conv_lhs => rw [hids]
      rw [List.range_succ_eq_map, List.map_cons, List.map_map]
      congr 1
      · simp
      · exact List.map_congr_left fun k _ => by
          simp only [Function.comp, hn]; congr 1; push_cast; omega

theorem run_stop (p : Process δ τ Dict ι) (calls : List (Nat × Call)) :
    (p.run c calls).fault = none ∨
      ∃ fault call, (p.run c calls).fault = some fault ∧
        calls[(p.run c calls).log.length]? = some call ∧
        (p.run c calls).process.step c call.1 call.2 = .error fault := by
  induction calls generalizing p with
  | nil => exact .inl rfl
  | cons call calls ih =>
    obtain ⟨manager, call⟩ := call
    rcases hs : p.step c manager call with fault | ⟨p', replies⟩
    · rw [run_cons_error c calls hs]
      exact .inr ⟨fault, (manager, call), rfl, by simp, hs⟩
    · rw [run_cons_ok c calls hs]
      rcases ih p' with h | ⟨fault, call', hf, hc, hstep⟩
      · exact .inl h
      · exact .inr ⟨fault, call', hf, by simpa using hc, hstep⟩

theorem nodup_numerals (n : Nat) :
    ((List.range n).map fun k : Nat => toString ((k + 1 : Nat) : Int)).Nodup :=
  (List.nodup_range n).map fun _ _ h => Nat.succ_injective (Decimal.toString_natCast_injective h)

theorem add_command_ids (managers : Nat → Manager δ τ Dict ι) (calls : List (Nat × Call)) :
    (∀ (p : Process δ τ Dict ι) (manager : Nat) (jsonCommand : String),
      p.step c manager (.addCommand jsonCommand) =
        match parseCommand c.readJson c.fromJson (p.managers manager).commandManager.dictionary
            jsonCommand with
        | .error error => .ok (p, [.replyWithError error])
        | .ok command =>
          if p.nextId < intMax then
            .ok (⟨p.nextId + 1, Function.update p.managers manager
                { p.managers manager with
                  commandManager := (p.managers manager).commandManager.addCommand
                    ⟨toString (p.nextId + 1), command⟩ }⟩,
              [.return [toString (p.nextId + 1)]])
          else .error .intOverflow) ∧
    ((start managers).run c calls).process.nextId =
      (returnedIds ((start managers).run c calls).log).length ∧
    returnedIds ((start managers).run c calls).log =
      (List.range (returnedIds ((start managers).run c calls).log).length).map
        (fun k : Nat => toString ((k + 1 : Nat) : Int)) ∧
    ((returnedIds ((start managers).run c calls).log).length : Int) ≤ intMax ∧
    (((start managers).run c calls).fault = some .intOverflow →
      ((returnedIds ((start managers).run c calls).log).length : Int) = intMax ∧
      ∃ manager jsonCommand command,
        calls[((start managers).run c calls).log.length]? =
          some (manager, .addCommand jsonCommand) ∧
        parseCommand c.readJson c.fromJson
          (((start managers).run c calls).process.managers manager).commandManager.dictionary
          jsonCommand = .ok command) ∧
    (returnedIds ((start managers).run c calls).log).Nodup := by
  have h0 : (start managers).nextId = 0 := rfl
  obtain ⟨hids, hnext, hle, hfault⟩ := run_spec c (start managers) (by simp [start, intMax]) calls
  rw [h0, zero_add] at hnext
  have hids' : returnedIds ((start managers).run c calls).log =
      (List.range (returnedIds ((start managers).run c calls).log).length).map
        (fun k : Nat => toString ((k + 1 : Nat) : Int)) := by
    conv_lhs => rw [hids]
    exact List.map_congr_left fun k _ => by simp [h0]
  refine ⟨step_addCommand_eq c, hnext, hids', hnext ▸ hle, fun hf => ⟨hnext ▸ hfault hf, ?_⟩,
    hids' ▸ nodup_numerals _⟩
  -- The call the run stopped at is an `AddCommand` whose request parses.
  rcases run_stop c (start managers) calls with h | ⟨fault, ⟨manager, call⟩, hf', hcall, hstep⟩
  · rw [h] at hf; cases hf
  · rw [hf] at hf'
    cases hf'
    obtain ⟨jsonCommand, command, rfl, hp, -⟩ := Manager.handle_intOverflow c (step_error c hstep)
    exact ⟨manager, jsonCommand, command, hcall, hp⟩

/-! ## Overflow -/

/-- Collaborators under which every request is accepted. -/
def acceptAll : Collaborators Unit Unit Unit Unit Unit where
  kErrorDomainGCD := "gcd"
  deviceInfo := ⟨fun m => (⟨true, []⟩, m), fun _ => "", fun m => (⟨none, []⟩, m),
    fun m _ => (⟨"", []⟩, m)⟩
  stateManager := ⟨fun s _ _ _ => (⟨true, []⟩, s), fun _ => ⟨none, []⟩⟩
  readJson _ := .ok ()
  fromJson _ _ := ⟨some (), []⟩
  writeJson _ := "{}"
  toJson _ := ()

theorem step_acceptAll (p : Process Unit Unit Unit Unit) (manager : Nat) (jsonCommand : String) :
    (∃ p' id, p.step acceptAll manager (.addCommand jsonCommand) = .ok (p', [.return [id]])) ∨
      p.step acceptAll manager (.addCommand jsonCommand) = .error .intOverflow := by
  by_cases hn : p.nextId < intMax <;>
    simp [step_addCommand_eq, parseCommand, acceptAll, hn]

theorem run_acceptAll (p : Process Unit Unit Unit Unit) (manager : Nat) (jsonCommand : String)
    (n : Nat) :
    (returnedIds (p.run acceptAll (List.replicate n (manager, .addCommand jsonCommand))).log).length
        = n ∨
      (p.run acceptAll (List.replicate n (manager, .addCommand jsonCommand))).fault =
        some .intOverflow := by
  induction n generalizing p with
  | zero => exact .inl rfl
  | succ n ih =>
    rw [List.replicate_succ]
    rcases step_acceptAll p manager jsonCommand with ⟨p', id, hs⟩ | hs
    · rw [run_cons_ok _ _ hs]
      simpa [returnedIds_cons, Call.returnedId] using ih p'
    · exact .inr (by rw [run_cons_error _ _ hs])

theorem run_acceptAll_overflows (managers : Nat → Manager Unit Unit Unit Unit) (manager : Nat)
    (jsonCommand : String) (n : Nat) (hn : intMax < n) :
    ((start managers).run acceptAll (List.replicate n (manager, .addCommand jsonCommand))).fault =
      some .intOverflow := by
  obtain ⟨-, hnext, hle, -⟩ := run_spec acceptAll (start managers) (by simp [start, intMax])
    (List.replicate n (manager, .addCommand jsonCommand))
  refine (run_acceptAll _ manager jsonCommand n).resolve_left fun hlen => ?_
  rw [hnext, hlen] at hle
  simp only [start, zero_add] at hle
  omega

theorem add_command_overflows :
    ((start fun _ => ⟨(), (), ⟨(), StdMap.empty⟩⟩).run acceptAll
      (List.replicate 2147483648 (0, .addCommand "{}"))).fault = some .intOverflow :=
  run_acceptAll_overflows _ 0 "{}" 2147483648 (by decide)

end Process

end Buffet
