import Buffet.Process
import Buffet.Manager.UpdateState

/-! # No failed call stops the process

With collaborators that fill in the `ErrorPtr` whenever they report failure, every call of a run
completes its response once, with a reply the caller can act on, and the run goes on past every
failed call: only `next_id` overflowing stops it, once `INT_MAX` commands were accepted.
-/

namespace Buffet

variable {δ τ Value Dict ι : Type}

theorem getState_reply_sound (writeJson : Value → String) (sm : StateManager τ Value) (s : τ)
    (hget : (sm.getStateValuesAsJson s).result = none → (sm.getStateValuesAsJson s).added ≠ []) :
    (Reply.ofExcept (getState writeJson sm s)).Sound := by
  rcases hr : (sm.getStateValuesAsJson s).result with _ | json
  · simpa [getState, hr, Reply.ofExcept] using ErrorPtr.addEntries_isSome (hget hr) none
  · simp [getState, hr, Reply.ofExcept]

namespace Manager

variable (c : Collaborators δ τ Value Dict ι)

theorem handle_replies_once (hinfo : c.deviceInfo.SetsErrors) (hsm : c.stateManager.SetsErrors)
    (hfrom : ∀ value dict, (c.fromJson value dict).result = none →
      (c.fromJson value dict).added ≠ [])
    (hget : ∀ s, (c.stateManager.getStateValuesAsJson s).result = none →
      (c.stateManager.getStateValuesAsJson s).added ≠ [])
    {nextId n : Int} {m m' : Manager δ τ Dict ι} {call : Call} {replies : List Reply}
    (h : m.handle c nextId call = .ok ((n, m'), replies)) :
    RepliesOnce replies := by
  cases handle_ok c h with
  | checkDeviceRegistered hc =>
    have := checkDeviceRegistered_replies_once c.kErrorDomainGCD c.deviceInfo m (hinfo.1 m)
    rwa [hc] at this
  | getDeviceInfo => exact getDeviceInfo_replies_once c.writeJson c.deviceInfo m (hinfo.2 m)
  | registerDevice params =>
    exact registerDevice_replies_once c.kErrorDomainGCD c.deviceInfo m params
  | updateState timestamp propertySet =>
    exact updateState_replies_once c.stateManager hsm m.stateManager timestamp propertySet
  | addCommandRejected _ _ hp =>
    exact (repliesOnce_singleton _).2 (parseCommand_error_isSome c.readJson c.fromJson hfrom hp)
  | addCommandAccepted => simp
  | getCommand id => exact getCommand_replies_once c.kErrorDomainGCD c.writeJson c.toJson _ id
  | getState =>
    exact (repliesOnce_singleton _).2
      (getState_reply_sound c.writeJson c.stateManager m.stateManager (hget _))
  | testMethod => simp

end Manager

namespace Process

variable (c : Collaborators δ τ Value Dict ι)

theorem run_sound (hinfo : c.deviceInfo.SetsErrors) (hsm : c.stateManager.SetsErrors)
    (hfrom : ∀ value dict, (c.fromJson value dict).result = none →
      (c.fromJson value dict).added ≠ [])
    (hget : ∀ s, (c.stateManager.getStateValuesAsJson s).result = none →
      (c.stateManager.getStateValuesAsJson s).added ≠ [])
    (p : Process δ τ Dict ι) (calls : List (Nat × Call)) :
    (∀ entry ∈ (p.run c calls).log, RepliesOnce entry.2) ∧
      ((p.run c calls).fault = none ∨ (p.run c calls).fault = some .intOverflow) := by
  induction calls generalizing p with
  | nil => simp [Process.run]
  | cons call calls ih =>
    obtain ⟨manager, call⟩ := call
    rcases hs : p.step c manager call with fault | ⟨p', replies⟩
    · obtain ⟨-, -, -, rfl, -⟩ := (step_eq_error c hinfo p manager call fault).1 hs
      rw [run_cons_error c calls hs]
      exact ⟨by simp, .inr rfl⟩
    · obtain ⟨m, hh, -⟩ := step_ok c hs
      obtain ⟨hlog, hfault⟩ := ih p'
      rw [run_cons_ok c calls hs]
      exact ⟨List.forall_mem_cons.2
        ⟨Manager.handle_replies_once c hinfo hsm hfrom hget hh, hlog⟩, hfault⟩

theorem calls_reply_once (hinfo : c.deviceInfo.SetsErrors) (hsm : c.stateManager.SetsErrors)
    (hfrom : ∀ value dict, (c.fromJson value dict).result = none →
      (c.fromJson value dict).added ≠ [])
    (hget : ∀ s, (c.stateManager.getStateValuesAsJson s).result = none →
      (c.stateManager.getStateValuesAsJson s).added ≠ [])
    (managers : Nat → Manager δ τ Dict ι) (calls : List (Nat × Call)) :
    (∀ entry ∈ ((start managers).run c calls).log, RepliesOnce entry.2) ∧
      (((start managers).run c calls).fault = none ∨
        (((start managers).run c calls).fault = some .intOverflow ∧
          ((returnedIds ((start managers).run c calls).log).length : Int) = intMax)) := by
  obtain ⟨hlog, hfault⟩ := run_sound c hinfo hsm hfrom hget (start managers) calls
  obtain ⟨-, hnext, -, hover⟩ := run_spec c (start managers) (by simp [start, intMax]) calls
  refine ⟨hlog, hfault.imp_right fun h => ⟨h, ?_⟩⟩
  -- The overflow comes at `INT_MAX` accepted commands.
  have := (hover h).symm.trans hnext
  simpa [start] using this.symm

def refusal : ErrorEntry := ⟨⟨"Refuse", "test.cc", 1⟩, "test", "refused", "refused"⟩

/-- Collaborators that refuse every call and say why. -/
def refusing : Collaborators Unit Unit Unit Unit Unit where
  kErrorDomainGCD := "gcd"
  deviceInfo := ⟨fun m => (⟨false, [refusal]⟩, m), fun _ => "", fun m => (⟨none, [refusal]⟩, m),
    fun m _ => (⟨"", [refusal]⟩, m)⟩
  stateManager := ⟨fun s _ _ _ => (⟨false, [refusal]⟩, s), fun _ => ⟨none, [refusal]⟩⟩
  readJson _ := .ok ()
  fromJson _ _ := ⟨none, [refusal]⟩
  writeJson _ := "{}"
  toJson _ := ()

theorem calls_reply_once_refusing :
    ((start fun _ => ⟨(), (), ⟨(), StdMap.empty⟩⟩).run refusing
      [(0, .checkDeviceRegistered),
        (1, .updateState 0 ⟨[("height", .int32 53), ("width", .int32 7)],
          by simp [String.lt_iff_toList_lt]; decide⟩),
        (0, .addCommand "{}"), (1, .getState), (0, .getCommand "1")]).log.Forall
      (fun entry => RepliesOnce entry.2) :=
  List.forall_iff_forall_mem.2 (calls_reply_once refusing
    ⟨fun _ _ => List.cons_ne_nil _ _, fun _ _ => List.cons_ne_nil _ _⟩
    (fun _ _ _ _ _ => List.cons_ne_nil _ _) (fun _ _ _ => List.cons_ne_nil _ _)
    (fun _ _ => List.cons_ne_nil _ _) _ _).1

end Process

end Buffet
