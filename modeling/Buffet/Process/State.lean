import Buffet.Process
import Buffet.Manager.UpdateState

/-! # What a run leaves in each `StateManager`

Only `UpdateState` writes properties, each `Manager` has its own `StateManager`, and the loop
of `UpdateState` writes only the entries of its batch. So, whatever the interleaving of calls
over the managers, every property of a manager holds its initial value or a value some
`UpdateState` sent to that same manager asked for: no write reaches another manager, and no
value comes from nowhere. This rests on `SetPropertyValue` keeping its contract (`Writes`) and
on `DeviceRegistrationInfo` leaving the `StateManager` it holds alone.
-/

namespace Buffet

variable {δ τ Value Dict ι : Type}

/-- `DeviceRegistrationInfo` leaves the `StateManager` it holds alone. -/
structure DeviceRegistrationInfo.KeepsState
    (info : DeviceRegistrationInfo (Manager δ τ Dict ι) Value) : Prop where
  checkRegistration : ∀ m, (info.checkRegistration m).2.stateManager = m.stateManager
  getDeviceInfo : ∀ m, (info.getDeviceInfo m).2.stateManager = m.stateManager
  registerDevice : ∀ m strParams,
    (info.registerDevice m strParams).2.stateManager = m.stateManager

section Origin

variable (c : Collaborators δ τ Value Dict ι) {get : τ → String → Option Any}

theorem Manager.handle_property (hkeep : c.deviceInfo.KeepsState)
    (hw : c.stateManager.Writes get) {nextId n : Int} {m m' : Manager δ τ Dict ι} {call : Call}
    {replies : List Reply} (h : m.handle c nextId call = .ok ((n, m'), replies))
    (name : String) :
    get m'.stateManager name = get m.stateManager name ∨
      ∃ timestamp propertySet value, call = .updateState timestamp propertySet ∧
        (name, value) ∈ propertySet.entries ∧ get m'.stateManager name = some value := by
  cases handle_ok c h with
  | checkDeviceRegistered => exact .inl (by rw [hkeep.checkRegistration])
  | getDeviceInfo => exact .inl (by rw [getDeviceInfo_state, hkeep.getDeviceInfo])
  | registerDevice params =>
    rcases registerDevice_state c.kErrorDomainGCD c.deviceInfo m params with hr | ⟨_, hr⟩
    · exact .inl (by rw [hr])
    · exact .inl (by rw [hr, hkeep.registerDevice])
  | updateState timestamp propertySet =>
    -- The loop writes only the entries of its batch.
    simp only [updateState_eq]
    rcases hw.setEach_origin timestamp name m.stateManager propertySet.entries
      with hs | ⟨value, hv, hs⟩
    · exact .inl hs
    · exact .inr ⟨timestamp, propertySet, value, rfl, hv, hs⟩
  | _ => exact .inl rfl

namespace Process

theorem property_origin (hkeep : c.deviceInfo.KeepsState) (hw : c.stateManager.Writes get)
    (p : Process δ τ Dict ι) (calls : List (Nat × Call)) (i : Nat) (name : String) :
    get ((p.run c calls).process.managers i).stateManager name =
        get (p.managers i).stateManager name ∨
      ∃ timestamp propertySet value,
        (i, Call.updateState timestamp propertySet) ∈ (p.run c calls).log.map Prod.fst ∧
        (name, value) ∈ propertySet.entries ∧
        get ((p.run c calls).process.managers i).stateManager name = some value := by
  induction calls generalizing p with
  | nil => exact .inl rfl
  | cons call calls ih =>
    obtain ⟨manager, call⟩ := call
    rcases hs : p.step c manager call with fault | ⟨p', replies⟩
    · rw [run_cons_error c calls hs]
      exact .inl rfl
    rw [run_cons_ok c calls hs]
    rcases ih p' with hfinal | ⟨timestamp, propertySet, value, hmem, hv, hfinal⟩
    · -- Nothing later wrote the property: it is as this call left it.
      obtain ⟨m, hh, hm⟩ := step_ok c hs
      rw [hfinal, hm, Function.update_apply]
      split_ifs with hi
      · subst hi
        rcases Manager.handle_property c hkeep hw hh name
          with hp | ⟨timestamp, propertySet, value, rfl, hv, hp⟩
        · exact .inl hp
        · exact .inr ⟨timestamp, propertySet, value, List.mem_cons_self _ _, hv, hp⟩
      · exact .inl rfl
    · exact .inr ⟨timestamp, propertySet, value, List.mem_cons_of_mem _ hmem, hv, hfinal⟩

/-- Collaborators around the `int32` state manager, with a `DeviceRegistrationInfo` that
touches nothing. -/
def int32Collaborators : Collaborators Unit (String → Option Any) Unit Unit Unit where
  kErrorDomainGCD := "gcd"
  deviceInfo := ⟨fun m => (⟨true, []⟩, m), fun _ => "", fun m => (⟨none, []⟩, m),
    fun m _ => (⟨"", []⟩, m)⟩
  stateManager := int32StateManager
  readJson _ := .ok ()
  fromJson _ _ := ⟨some (), []⟩
  writeJson _ := "{}"
  toJson _ := ()

/-- Two managers, each sent a write of "height". -/
def heightWrites : List (Nat × Call) :=
  [(0, .updateState 0 ⟨[("height", .int32 53)], List.pairwise_singleton _ _⟩),
    (1, .updateState 0 ⟨[("height", .int32 7)], List.pairwise_singleton _ _⟩)]

/-- Managers with no property set and no command. -/
def blank : Process Unit (String → Option Any) Unit Unit :=
  start fun _ => ⟨(), fun _ => none, ⟨(), StdMap.empty⟩⟩

theorem property_origin_two_managers :
    ((blank.run int32Collaborators heightWrites).process.managers 0).stateManager "height" =
        none ∨
      ∃ timestamp propertySet value,
        (0, Call.updateState timestamp propertySet) ∈
          (blank.run int32Collaborators heightWrites).log.map Prod.fst ∧
        ("height", value) ∈ propertySet.entries ∧
        ((blank.run int32Collaborators heightWrites).process.managers 0).stateManager "height" =
          some value :=
  property_origin int32Collaborators ⟨fun _ => rfl, fun _ => rfl, fun _ _ => rfl⟩
    int32StateManager_writes _ _ 0 "height"

end Process

end Origin

end Buffet
