import Buffet.Manager
import Buffet.Decimal

/-! # `AddCommand` and `GetCommand`

`AddCommand` numbers the commands it accepts with `static int next_id`, which every `Manager`
of the process shares. A run of calls numbers its accepted commands 1, 2, 3, ... in order, until
the 2147483648th would overflow the `int`.
-/

namespace Buffet

variable {Value Dict ι : Type}

section Step

variable (readJson : String → Except String Value) (fromJson : Value → Dict → Answer (Option ι))

/-- What `AddCommand` makes of the request before it numbers it: the command, or the error it
replies with. -/
def parseCommand (dictionary : Dict) (jsonCommand : String) : Except ErrorPtr ι :=
  match readJson jsonCommand with
  | .error errorMessage =>
    .error (Error.addTo none (fromHere "AddCommand" 179) Errors.Json.kDomain
      Errors.Json.kParseError errorMessage)
  | .ok value =>
    match (fromJson value dictionary).result with
    | none => .error (ErrorPtr.addEntries none (fromJson value dictionary).added)
    | some command => .ok command

theorem addCommand_eq (nextId : Int) (cm : CommandManager Dict ι) (jsonCommand : String) :
    addCommand readJson fromJson nextId cm jsonCommand =
      match parseCommand readJson fromJson cm.dictionary jsonCommand with
      | .error error => .ok ((nextId, cm), [.replyWithError error])
      | .ok command =>
        if nextId < intMax then
          .ok ((nextId + 1, cm.addCommand ⟨toString (nextId + 1), command⟩),
            [.return [toString (nextId + 1)]])
        else .error .intOverflow := by
  rcases hr : readJson jsonCommand with errorMessage | value
  · simp only [addCommand, parseCommand, hr]; rfl
  · rcases hc : (fromJson value cm.dictionary).result with _ | command
    · simp only [addCommand, parseCommand, hr, hc]; rfl
    · by_cases hn : nextId < intMax <;>
        simp [addCommand, parseCommand, hr, hc, hn, preIncrement]

theorem parseCommand_error_isSome
    (hfrom : ∀ value dict, (fromJson value dict).result = none → (fromJson value dict).added ≠ [])
    {dictionary : Dict} {jsonCommand : String} {error : ErrorPtr}
    (h : parseCommand readJson fromJson dictionary jsonCommand = .error error) : error.isSome := by
  rcases hr : readJson jsonCommand with errorMessage | value
  · simp only [parseCommand, hr, Except.error.injEq] at h
    rw [← h]; rfl
  · rcases hc : (fromJson value dictionary).result with _ | command <;>
      simp only [parseCommand, hr, hc, Except.error.injEq, reduceCtorEq] at h
    exact h ▸ ErrorPtr.addEntries_isSome (hfrom value dictionary hc) none

end Step

theorem getCommand_replies_once (kErrorDomainGCD : String) (writeJson : Value → String)
    (toJson : CommandInstance ι → Value) (cm : CommandManager Dict ι) (id : String) :
    RepliesOnce (getCommand kErrorDomainGCD writeJson toJson cm id) := by
  unfold getCommand
  split <;> simp [Reply.withNewError, Error.addTo]

end Buffet
