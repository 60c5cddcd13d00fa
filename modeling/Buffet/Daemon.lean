import Buffet.Process.Replies

/-! # Callbacks, and how a run of the daemon stops

Besides its D-Bus methods, a `Manager` is called back by its collaborators:
`OnRegistrationStatusChanged` when the registration status changes, and `OnCommandDefsChanged`
when the command dictionary does. Both copy state into the properties `dbus_adaptor_`
publishes; the second `CHECK`s that the dictionary could be written out, and a failed `CHECK`
aborts the process. With collaborators that fill in their errors, a run of the daemon, which
mixes method calls and callbacks, never replies with a null error, and stops only at the
overflow of `next_id` or at that `CHECK`.
-/

namespace Buffet

variable {δ τ Value Dict ι : Type}

/-- The D-Bus properties `dbus_adaptor_` publishes for a `Manager`. -/
structure Published where
  status : String
  deviceId : String
  commandDefs : String

/-- What the callbacks call that src/ does not define: `StatusToString` of
`DeviceRegistrationInfo::GetRegistrationStatus()`, and `GetCommandsAsJson(true, &error)` of
the command dictionary. -/
structure Notifiers (δ τ Value Dict ι : Type) where
  registrationStatus : Manager δ τ Dict ι → String
  getCommandsAsJson : Dict → Answer (Option Value)

namespace Manager

/-- `OnRegistrationStatusChanged`. -/
def onRegistrationStatusChanged (registrationStatus : Manager δ τ Dict ι → String)
    (deviceInfo : DeviceRegistrationInfo (Manager δ τ Dict ι) Value) (m : Manager δ τ Dict ι)
    (published : Published) : Published :=
  { published with status := registrationStatus m, deviceId := deviceInfo.getDeviceId m }

/-- `OnCommandDefsChanged`; `none` when `CHECK(commands)` fails, which aborts the process. -/
def onCommandDefsChanged (getCommandsAsJson : Dict → Answer (Option Value))
    (writeJson : Value → String) (m : Manager δ τ Dict ι) (published : Published) :
    Option Published :=
  match (getCommandsAsJson m.commandManager.dictionary).result with
  | none => none
  | some commands => some { published with commandDefs := writeJson commands }

end Manager

/-- What the daemon reacts to: a method call on a `Manager`, or one of its callbacks. -/
inductive Event
  | call (manager : Nat) (call : Call)
  | registrationStatusChanged (manager : Nat)
  | commandDefsChanged (manager : Nat)

/-- Why a run stopped: undefined behaviour in a handler, or a failed `CHECK`. -/
inductive Stop
  | fault (fault : Fault)
  | checkFailed
  deriving DecidableEq

def Event.methodCall : Event → Option (Nat × Call)
  | .call manager method => some (manager, method)
  | _ => none

def Stop.toFault : Stop → Option Fault
  | .fault reason => some reason
  | .checkFailed => none

def callEntry (entry : Event × List Reply) : Option ((Nat × Call) × List Reply) :=
  entry.1.methodCall.map fun call => (call, entry.2)

/-- The process, with the properties each `Manager` publishes. -/
structure Daemon (δ τ Dict ι : Type) where
  process : Process δ τ Dict ι
  published : Nat → Published

namespace Daemon

variable (c : Collaborators δ τ Value Dict ι) (notifiers : Notifiers δ τ Value Dict ι)

/-- One event. A method call's replies go out as its handler made them: what the library does
with a null error is not in src/, and `run_replies_sound` shows that collaborators keeping the
errors convention never lead to one. -/
def step (d : Daemon δ τ Dict ι) : Event → Except Stop (Daemon δ τ Dict ι × List Reply)
  | .call manager call =>
    match d.process.step c manager call with
    | .error fault => .error (.fault fault)
    | .ok (p, replies) => .ok (⟨p, d.published⟩, replies)
  | .registrationStatusChanged manager =>
    .ok (⟨d.process, Function.update d.published manager
      ((d.process.managers manager).onRegistrationStatusChanged notifiers.registrationStatus
        c.deviceInfo (d.published manager))⟩, [])
  | .commandDefsChanged manager =>
    match (d.process.managers manager).onCommandDefsChanged notifiers.getCommandsAsJson
        c.writeJson (d.published manager) with
    | none => .error .checkFailed
    | some published => .ok (⟨d.process, Function.update d.published manager published⟩, [])

/-- How a run of events ended: the daemon it left, each event handled with its replies, in
order, and why it stopped, if it did. -/
structure Run (δ τ Dict ι : Type) where
  daemon : Daemon δ τ Dict ι
  log : List (Event × List Reply)
  stop : Option Stop

def run : Daemon δ τ Dict ι → List Event → Run δ τ Dict ι
  | d, [] => ⟨d, [], none⟩
  | d, event :: events =>
    match d.step c notifiers event with
    | .error s => ⟨d, [], some s⟩
    | .ok (d', replies) =>
      let r := run d' events
      ⟨r.daemon, (event, replies) :: r.log, r.stop⟩

/-- The events that stop the daemon, when the collaborators fill in their errors, and the
states they stop it in. -/
inductive StopsAt (d : Daemon δ τ Dict ι) : Event → Stop → Prop
  /-- `++next_id` overflows: an `AddCommand` whose request parses, at `INT_MAX`. -/
  | overflow (manager : Nat) (jsonCommand : String) (command : ι)
      (hparse : parseCommand c.readJson c.fromJson
        (d.process.managers manager).commandManager.dictionary jsonCommand = .ok command)
      (hmax : intMax ≤ d.process.nextId) :
      StopsAt d (.call manager (.addCommand jsonCommand)) (.fault .intOverflow)
  /-- `CHECK(commands)`: the dictionary of the manager could not be written out. -/
  | checkFailed (manager : Nat)
      (hnone : (notifiers.getCommandsAsJson
        (d.process.managers manager).commandManager.dictionary).result = none) :
      StopsAt d (.commandDefsChanged manager) .checkFailed

theorem run_cons_ok {d d' : Daemon δ τ Dict ι} {event : Event} {replies : List Reply}
    (events : List Event) (h : d.step c notifiers event = .ok (d', replies)) :
    d.run c notifiers (event :: events) =
      ⟨(d'.run c notifiers events).daemon, (event, replies) :: (d'.run c notifiers events).log,
        (d'.run c notifiers events).stop⟩ := by
  rw [run, h]

theorem run_cons_error {d : Daemon δ τ Dict ι} {event : Event} {s : Stop} (events : List Event)
    (h : d.step c notifiers event = .error s) :
    d.run c notifiers (event :: events) = ⟨d, [], some s⟩ := by
  rw [run, h]

theorem run_stop (d : Daemon δ τ Dict ι) (events : List Event) :
    (d.run c notifiers events).stop = none ∨
      ∃ s event, (d.run c notifiers events).stop = some s ∧
        events[(d.run c notifiers events).log.length]? = some event ∧
        (d.run c notifiers events).daemon.step c notifiers event = .error s := by
  induction events generalizing d with
  | nil => exact .inl rfl
  | cons event events ih =>
    rcases hs : d.step c notifiers event with s | ⟨d', replies⟩
    · rw [run_cons_error c notifiers events hs]
      exact .inr ⟨s, event, rfl, by simp, hs⟩
    · rw [run_cons_ok c notifiers events hs]
      rcases ih d' with h | ⟨s, e, hstop, he, hstep⟩
      · exact .inl h
      · exact .inr ⟨s, e, hstop, by simpa using he, hstep⟩

/-! ## One event -/

theorem step_callback {d d' : Daemon δ τ Dict ι} {event : Event} {replies : List Reply}
    (h : d.step c notifiers event = .ok (d', replies)) (hcall : event.methodCall = none) :
    d'.process = d.process ∧ replies = [] := by
  cases event with
  | call => cases hcall
  | registrationStatusChanged =>
    simp only [step, Except.ok.injEq, Prod.mk.injEq] at h
    exact ⟨by rw [← h.1], h.2.symm⟩
  | commandDefsChanged manager =>
    simp only [step] at h
    split at h
    · cases h
    · simp only [Except.ok.injEq, Prod.mk.injEq] at h
      exact ⟨by rw [← h.1], h.2.symm⟩

theorem step_call_ok {d d' : Daemon δ τ Dict ι} {manager : Nat} {call : Call}
    {replies : List Reply} (h : d.step c notifiers (.call manager call) = .ok (d', replies)) :
    d.process.step c manager call = .ok (d'.process, replies) := by
  simp only [step] at h
  split at h
  · cases h
  · rename_i hp
    simp only [Except.ok.injEq, Prod.mk.injEq] at h
    obtain ⟨rfl, rfl⟩ := h
    exact hp

/-- An event that stops the daemon faults the process if it is a method call, and otherwise is
a failed `CHECK`, which the process does not see. -/
theorem step_error_run {d : Daemon δ τ Dict ι} {event : Event} {s : Stop}
    (h : d.step c notifiers event = .error s) :
    d.process.run c ([event].filterMap Event.methodCall) = ⟨d.process, [], s.toFault⟩ := by
  cases event with
  | call manager call =>
    simp only [step] at h
    split at h
    · rename_i fault hp
      cases h
      exact Process.run_cons_error c [] hp
    · cases h
  | registrationStatusChanged => cases h
  | commandDefsChanged =>
    simp only [step] at h
    split at h <;> cases h
    rfl

/-! ## How a run stops -/

section Conventions

variable (hinfo : c.deviceInfo.SetsErrors) (hsm : c.stateManager.SetsErrors)
  (hfrom : ∀ value dict, (c.fromJson value dict).result = none →
    (c.fromJson value dict).added ≠ [])
  (hget : ∀ s, (c.stateManager.getStateValuesAsJson s).result = none →
    (c.stateManager.getStateValuesAsJson s).added ≠ [])
include hinfo

theorem step_eq_error (d : Daemon δ τ Dict ι) (event : Event) (s : Stop) :
    d.step c notifiers event = .error s ↔ StopsAt c notifiers d event s := by
  cases event with
  | call manager call =>
    rcases hp : d.process.step c manager call with fault | ⟨p, replies⟩ <;>
      simp only [step, hp, Except.error.injEq, reduceCtorEq, false_iff]
    · -- The process faulted: an overflow.
      obtain ⟨jsonCommand, command, rfl, rfl, hparse, hmax⟩ :=
        (Process.step_eq_error c hinfo _ _ _ _).1 hp
      exact ⟨fun h => h ▸ .overflow manager jsonCommand command hparse hmax, by rintro ⟨⟩; rfl⟩
    · intro h
      cases h with
      | overflow _ jsonCommand command hparse hmax =>
        rw [(Process.step_eq_error c hinfo _ _ _ _).2
          ⟨jsonCommand, command, rfl, rfl, hparse, hmax⟩] at hp
        cases hp
  | registrationStatusChanged manager =>
    simp only [step, reduceCtorEq, false_iff]
    rintro ⟨⟩
  | commandDefsChanged manager =>
    rcases hg : (notifiers.getCommandsAsJson
        (d.process.managers manager).commandManager.dictionary).result with _ | commands <;>
      simp only [step, Manager.onCommandDefsChanged, hg, Except.error.injEq, reduceCtorEq,
        false_iff]
    · exact ⟨fun h => h ▸ .checkFailed manager hg, by rintro ⟨⟩; rfl⟩
    · intro h
      cases h with
      | checkFailed _ hnone => rw [hg] at hnone; cases hnone

include hsm hfrom hget

theorem step_replies_sound {d d' : Daemon δ τ Dict ι} {event : Event} {replies : List Reply}
    (h : d.step c notifiers event = .ok (d', replies)) : ∀ reply ∈ replies, reply.Sound := by
  cases event with
  | call manager call =>
    obtain ⟨m, hh, -⟩ := Process.step_ok c (step_call_ok c notifiers h)
    obtain ⟨reply, rfl, hsound⟩ := Manager.handle_replies_once c hinfo hsm hfrom hget hh
    simpa using hsound
  | _ =>
    obtain ⟨-, rfl⟩ := step_callback c notifiers h rfl
    simp

theorem run_replies_sound (d : Daemon δ τ Dict ι) (events : List Event) :
    ∀ entry ∈ (d.run c notifiers events).log, ∀ reply ∈ entry.2, reply.Sound := by
  induction events generalizing d with
  | nil => simp [run]
  | cons event events ih =>
    rcases hs : d.step c notifiers event with s | ⟨d', replies⟩
    · simp [run_cons_error c notifiers events hs]
    · rw [run_cons_ok c notifiers events hs]
      exact List.forall_mem_cons.2 ⟨step_replies_sound c notifiers hinfo hsm hfrom hget hs, ih d'⟩

theorem run_stops_only_at (d : Daemon δ τ Dict ι) (events : List Event) :
    (∀ (d' : Daemon δ τ Dict ι) (event : Event) (s : Stop),
      d'.step c notifiers event = .error s ↔ StopsAt c notifiers d' event s) ∧
    (∀ entry ∈ (d.run c notifiers events).log, ∀ reply ∈ entry.2, reply.Sound) ∧
    ((d.run c notifiers events).stop = none ∨
      ∃ s event, (d.run c notifiers events).stop = some s ∧
        events[(d.run c notifiers events).log.length]? = some event ∧
        StopsAt c notifiers (d.run c notifiers events).daemon event s) := by
  refine ⟨step_eq_error c notifiers hinfo,
    run_replies_sound c notifiers hinfo hsm hfrom hget d events,
    (run_stop c notifiers d events).imp_right ?_⟩
  rintro ⟨s, event, hstop, he, hstep⟩
  exact ⟨s, event, hstop, he, (step_eq_error c notifiers hinfo _ event s).1 hstep⟩

end Conventions

/-- Notifiers for which no command dictionary can be written out. -/
def unwritable : Notifiers Unit Unit Unit Unit Unit :=
  ⟨fun _ => "unregistered", fun _ => ⟨none, []⟩⟩

/-- A daemon over managers with no command, that has published nothing yet. -/
def idle : Daemon Unit Unit Unit Unit :=
  ⟨Process.start fun _ => ⟨(), (), ⟨(), StdMap.empty⟩⟩, fun _ => ⟨"", "", ""⟩⟩

/-- A registration check, a status change, a change of the command dictionary and a
`GetState`, on manager 0. -/
def checkEvents : List Event :=
  [.call 0 .checkDeviceRegistered, .registrationStatusChanged 0, .commandDefsChanged 0,
    .call 0 .getState]

theorem refusing_run_stops :
    (idle.run Process.refusing unwritable checkEvents).stop = none ∨
      ∃ s event, (idle.run Process.refusing unwritable checkEvents).stop = some s ∧
        checkEvents[(idle.run Process.refusing unwritable checkEvents).log.length]? =
          some event ∧
        StopsAt Process.refusing unwritable
          (idle.run Process.refusing unwritable checkEvents).daemon event s :=
  (run_stops_only_at Process.refusing unwritable
    ⟨fun _ _ => List.cons_ne_nil _ _, fun _ _ => List.cons_ne_nil _ _⟩
    (fun _ _ _ _ _ => List.cons_ne_nil _ _) (fun _ _ _ => List.cons_ne_nil _ _)
    (fun _ _ => List.cons_ne_nil _ _) idle checkEvents).2.2

/-! ## The method calls of a run

Callbacks only read the `Manager` and write the published properties, so the method calls of
a run of the daemon are handled as a run of the process over those calls alone would handle
them: every result about runs of the process holds of the daemon, whatever callbacks come in
between. -/

theorem run_process (d : Daemon δ τ Dict ι) (events : List Event) :
    d.process.run c ((events.take ((d.run c notifiers events).log.length + 1)).filterMap
        Event.methodCall) =
      ⟨(d.run c notifiers events).daemon.process, (d.run c notifiers events).log.filterMap callEntry,
        (d.run c notifiers events).stop.bind Stop.toFault⟩ := by
  induction events generalizing d with
  | nil => rfl
  | cons event events ih =>
    rcases hs : d.step c notifiers event with s | ⟨d', replies⟩
    · rw [run_cons_error c notifiers events hs]
      exact step_error_run c notifiers hs
    rw [run_cons_ok c notifiers events hs]
    cases event with
    | call manager call =>
      -- A method call: the process steps as the daemon does.
      simp only [List.length_cons, List.take_succ_cons, List.filterMap_cons, Event.methodCall,
        callEntry, Option.map_some', Process.run_cons_ok c _ (step_call_ok c notifiers hs)]
      rw [ih d']
    | _ =>
      -- A callback: the process and the calls are as they were.
      obtain ⟨hp, rfl⟩ := step_callback c notifiers hs rfl
      simpa [callEntry, Event.methodCall, hp] using ih d'

end Daemon

end Buffet
