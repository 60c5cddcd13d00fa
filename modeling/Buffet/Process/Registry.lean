import Buffet.Process

/-! # What a run stores

Every accepted command is stored, on the `Manager` that accepted it, under the id `AddCommand`
returned for it, and `GetCommand` finds exactly these, whatever other calls the run makes, as
long as `DeviceRegistrationInfo` leaves the `CommandManager` alone. Sharing `next_id` between
managers leaves gaps in each manager's ids but never makes an insertion collide: an id is never
handed out twice.
-/

namespace Buffet

variable {δ τ Value Dict ι : Type}

/-- `DeviceRegistrationInfo` leaves the `CommandManager` it holds alone. -/
structure DeviceRegistrationInfo.KeepsCommands
    (info : DeviceRegistrationInfo (Manager δ τ Dict ι) Value) : Prop where
  checkRegistration : ∀ m, (info.checkRegistration m).2.commandManager = m.commandManager
  getDeviceInfo : ∀ m, (info.getDeviceInfo m).2.commandManager = m.commandManager
  registerDevice : ∀ m strParams,
    (info.registerDevice m strParams).2.commandManager = m.commandManager

theorem Manager.handle_commandManager (c : Collaborators δ τ Value Dict ι)
    (hkeeps : c.deviceInfo.KeepsCommands) {nextId n : Int} {m m' : Manager δ τ Dict ι}
    {call : Call} {replies : List Reply} (h : m.handle c nextId call = .ok ((n, m'), replies)) :
    m'.commandManager = m.commandManager ∨ ∃ jsonCommand, call = .addCommand jsonCommand := by
  cases handle_ok c h with
  | checkDeviceRegistered => exact .inl (hkeeps.checkRegistration m)
  | getDeviceInfo => exact .inl (by rw [getDeviceInfo_state, hkeeps.getDeviceInfo])
  | registerDevice params =>
    rcases registerDevice_state c.kErrorDomainGCD c.deviceInfo m params with hr | ⟨_, hr⟩
    · exact .inl (by rw [hr])
    · exact .inl (by rw [hr, hkeeps.registerDevice])
  | addCommandRejected jsonCommand => exact .inr ⟨jsonCommand, rfl⟩
  | addCommandAccepted jsonCommand => exact .inr ⟨jsonCommand, rfl⟩
  | _ => exact .inl rfl

namespace Process

/-- `std::to_string(k)` for a count `k`. -/
def numeral (k : Nat) : String := toString (k : Int)

theorem numeral_injective : Function.Injective numeral := Decimal.toString_natCast_injective

/-- The `GetCommand` of the service a run implements: the command of `accepted` numbered `id`,
if the manager `i` accepted it. `accepted` is oldest first and numbered from `n + 1`. -/
def acceptedFind (i : Nat) (id : String) : Nat → List (Nat × ι) → Option (CommandInstance ι)
  | _, [] => none
  | n, (m, command) :: rest =>
    if numeral (n + 1) = id ∧ m = i then some ⟨id, command⟩ else acceptedFind i id (n + 1) rest

theorem acceptedFind_of_gt (i k : Nat) :
    ∀ (n : Nat) (acc : List (Nat × ι)), n + acc.length < k → acceptedFind i (numeral k) n acc = none
  | _, [], _ => rfl
  | n, (m, command) :: rest, h => by
    rw [List.length_cons] at h
    have hne : numeral (n + 1) ≠ numeral k := fun he => absurd (numeral_injective he) (by omega)
    rw [acceptedFind, if_neg (fun h' => hne h'.1), acceptedFind_of_gt i k (n + 1) rest (by omega)]

theorem acceptedFind_append (i : Nat) (id : String) (m : Nat) (command : ι) :
    ∀ (n : Nat) (acc : List (Nat × ι)),
      acceptedFind i id n (acc ++ [(m, command)]) =
        if numeral (n + acc.length + 1) = id ∧ m = i then some ⟨id, command⟩
        else acceptedFind i id n acc
  | n, [] => by simp [acceptedFind]
  | n, (m', c) :: rest => by
    rw [List.cons_append, acceptedFind, acceptedFind, acceptedFind_append i id m command (n + 1),
      List.length_cons, show n + 1 + rest.length + 1 = n + (rest.length + 1) + 1 by omega]
    by_cases h : numeral (n + 1) = id ∧ m' = i
    · rw [if_pos h, if_pos h, if_neg]
      -- Two numbers with one numeral: impossible.
      exact fun h' => absurd (numeral_injective (h.1.trans h'.1.symm)) (by omega)
    · rw [if_neg h, if_neg h]

section Registry

variable (c : Collaborators δ τ Value Dict ι)

/-- The command a call has a manager accept: that of an `AddCommand` whose request the
manager's dictionary parses. -/
def acceptedBy (dictionaries : Nat → Dict) : Nat × Call → List (Nat × ι)
  | (manager, .addCommand jsonCommand) =>
    match parseCommand c.readJson c.fromJson (dictionaries manager) jsonCommand with
    | .ok command => [(manager, command)]
    | .error _ => []
  | _ => []

/-- The commands a sequence of calls has accepted, oldest first, each with its manager. -/
def accepted (dictionaries : Nat → Dict) (calls : List (Nat × Call)) : List (Nat × ι) :=
  calls.flatMap (acceptedBy c dictionaries)

/-- `p` holds exactly the commands of `acc`: `next_id` counts them, and each manager finds the
ones it accepted under their numbers. -/
structure Stores (p : Process δ τ Dict ι) (dictionaries : Nat → Dict) (acc : List (Nat × ι)) :
    Prop where
  nextId_eq : p.nextId = acc.length
  dictionary_eq : ∀ i, (p.managers i).commandManager.dictionary = dictionaries i
  findCommand_eq : ∀ i id, (p.managers i).commandManager.findCommand id = acceptedFind i id 0 acc

variable {c}

theorem Stores.congr {p p' : Process δ τ Dict ι} {dictionaries : Nat → Dict}
    {acc : List (Nat × ι)} (hs : Stores p dictionaries acc) (hn : p'.nextId = p.nextId)
    (hm : ∀ i, (p'.managers i).commandManager = (p.managers i).commandManager) :
    Stores p' dictionaries acc :=
  ⟨hn.trans hs.nextId_eq, fun i => (hm i).symm ▸ hs.dictionary_eq i,
    fun i id => (hm i).symm ▸ hs.findCommand_eq i id⟩

theorem Stores.addCommand {p : Process δ τ Dict ι} {dictionaries : Nat → Dict}
    {acc : List (Nat × ι)} (hs : Stores p dictionaries acc) (manager : Nat) (command : ι) :
    Stores ⟨p.nextId + 1, Function.update p.managers manager
        { p.managers manager with
          commandManager := (p.managers manager).commandManager.addCommand
            ⟨toString (p.nextId + 1), command⟩ }⟩
      dictionaries (acc ++ [(manager, command)]) := by
  have hid : toString (p.nextId + 1) = numeral (acc.length + 1) := by
    rw [hs.nextId_eq, numeral]; push_cast; rfl
  refine ⟨by simp [hs.nextId_eq], fun i => ?_, fun i id => ?_⟩
  · by_cases hi : i = manager
    · subst hi; simp [CommandManager.addCommand, hs.dictionary_eq]
    · simp [hi, hs.dictionary_eq]
  · rw [acceptedFind_append, Nat.zero_add, hid]
    by_cases hi : i = manager
    · subst hi
      -- The new id was never handed out, so the emplace inserts.
      have hfresh : ((p.managers i).commandManager.commands.find
          (numeral (acc.length + 1))).isNone := by
        rw [← CommandManager.findCommand, hs.findCommand_eq,
          acceptedFind_of_gt i _ 0 acc (by omega)]
        rfl
      simp only [Function.update_same, CommandManager.findCommand, CommandManager.addCommand,
        StdMap.find_emplace, hfresh, and_true, ← hs.findCommand_eq]
      by_cases he : id = numeral (acc.length + 1)
      · subst he; simp
      · simp [he, Ne.symm he]
    · simp [hi, Ne.symm hi, hs.findCommand_eq]

theorem Stores.step (hkeeps : c.deviceInfo.KeepsCommands) {p p' : Process δ τ Dict ι}
    {dictionaries : Nat → Dict} {acc : List (Nat × ι)} (hs : Stores p dictionaries acc)
    {manager : Nat} {call : Call} {replies : List Reply}
    (h : p.step c manager call = .ok (p', replies)) :
    Stores p' dictionaries (acc ++ acceptedBy c dictionaries (manager, call)) := by
  by_cases hadd : ∃ jsonCommand, call = .addCommand jsonCommand
  · obtain ⟨jsonCommand, rfl⟩ := hadd
    rw [step_addCommand_eq, hs.dictionary_eq] at h
    rcases hp : parseCommand c.readJson c.fromJson (dictionaries manager) jsonCommand
      with error | command <;> simp only [acceptedBy, hp] at h ⊢
    · -- Rejected: nothing changes.
      obtain ⟨rfl, -⟩ := Prod.mk.inj (Except.ok.inj h)
      simpa using hs
    · -- Accepted: stored under the next id.
      split_ifs at h
      obtain ⟨rfl, -⟩ := Prod.mk.inj (Except.ok.inj h)
      exact hs.addCommand manager command
  · -- Any other call leaves `next_id` and every `CommandManager` alone.
    obtain ⟨m, hh, hm⟩ := step_ok c h
    have hn : p'.nextId = p.nextId := by
      rcases Manager.handle_nextId c hh with ⟨hn, -⟩ | ⟨-, -, hid⟩
      · exact hn
      · cases call <;> simp_all [Call.returnedId]
    have hcm := (Manager.handle_commandManager c hkeeps hh).resolve_right hadd
    have hacc : acceptedBy c dictionaries (manager, call) = [] := by
      cases call <;> simp_all [acceptedBy]
    rw [hacc, List.append_nil]
    refine hs.congr hn fun i => ?_
    rw [hm, Function.update_apply]
    split_ifs with hi
    · subst hi; exact hcm
    · rfl

theorem Stores.run (hkeeps : c.deviceInfo.KeepsCommands) {p : Process δ τ Dict ι}
    {dictionaries : Nat → Dict} {acc : List (Nat × ι)} (hs : Stores p dictionaries acc)
    (calls : List (Nat × Call)) :
    Stores (p.run c calls).process dictionaries
      (acc ++ accepted c dictionaries ((p.run c calls).log.map Prod.fst)) := by
  induction calls generalizing p acc with
  | nil => simpa [Process.run, accepted] using hs
  | cons call calls ih =>
    obtain ⟨manager, call⟩ := call
    rcases hstep : p.step c manager call with fault | ⟨p', replies⟩
    · simpa [run_cons_error c calls hstep, accepted] using hs
    · rw [run_cons_ok c calls hstep]
      simpa [accepted, List.append_assoc] using ih (hs.step hkeeps hstep)

variable (c)

theorem get_command_after_run (hkeeps : c.deviceInfo.KeepsCommands)
    (managers : Nat → Manager δ τ Dict ι)
    (hempty : ∀ i, (managers i).commandManager.commands = StdMap.empty)
    (calls : List (Nat × Call)) (i : Nat) (id : String) :
    returnedIds ((start managers).run c calls).log =
        (List.range (accepted c (fun i => (managers i).commandManager.dictionary)
          (((start managers).run c calls).log.map Prod.fst)).length).map
          (fun k => numeral (k + 1)) ∧
    getCommand c.kErrorDomainGCD c.writeJson c.toJson
        (((start managers).run c calls).process.managers i).commandManager id =
      match acceptedFind i id 0 (accepted c (fun i => (managers i).commandManager.dictionary)
          (((start managers).run c calls).log.map Prod.fst)) with
      | none => [.withNewError (fromHere "GetCommand" 201) c.kErrorDomainGCD "unknown_command"
          ("Can't find command with id: " ++ id)]
      | some command => [.return [c.writeJson (c.toJson command)]] := by
  have h0 : Stores (start managers) (fun i => (managers i).commandManager.dictionary)
      ([] : List (Nat × ι)) :=
    ⟨rfl, fun _ => rfl, fun i _ => by simp [start, CommandManager.findCommand, hempty i,
      acceptedFind]⟩
  have hs := Stores.run hkeeps h0 calls
  rw [List.nil_append] at hs
  obtain ⟨hids, hnext, -, -⟩ := run_spec c (start managers) (by simp [start, intMax]) calls
  refine ⟨?_, by
    cases hf : acceptedFind i id 0 (accepted c (fun i => (managers i).commandManager.dictionary)
        (((start managers).run c calls).log.map Prod.fst)) <;>
      simp only [getCommand, hs.findCommand_eq, hf]⟩
  have hlen : (returnedIds ((start managers).run c calls).log).length =
      (accepted c (fun i => (managers i).commandManager.dictionary)
        (((start managers).run c calls).log.map Prod.fst)).length := by
    simpa [start] using hnext.symm.trans hs.nextId_eq
  rw [hids, hlen]
  exact List.map_congr_left fun k _ => by simp [start, numeral]

end Registry

theorem get_command_after_one_call :
    getCommand "gcd" (fun _ => "{}") (fun _ => ())
      (((start fun _ => ⟨(), (), ⟨(), StdMap.empty⟩⟩).run acceptAll
        [(0, .addCommand "{}")]).process.managers 0).commandManager "1" = [.return ["{}"]] :=
  (get_command_after_run acceptAll ⟨fun _ => rfl, fun _ => rfl, fun _ _ => rfl⟩
    (fun _ => ⟨(), (), ⟨(), StdMap.empty⟩⟩) (fun _ => rfl) [(0, .addCommand "{}")] 0 "1").2.trans
    (by decide)

end Process

end Buffet
