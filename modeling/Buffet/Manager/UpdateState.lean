import Buffet.Manager

/-! # `UpdateState`

One `SetPropertyValue` per entry of the property set, in key order, all with the timestamp read
once; a failure does not stop the loop, and the reply reports every error the calls added.
-/

namespace Buffet

variable {τ Value : Type}

namespace StateManager

/-- `SetPropertyValue` on each entry in turn from state `s`: the answers, in order, and the
state left. -/
def setEach (sm : StateManager τ Value) (timestamp : Time) :
    τ → List (String × Any) → List (Answer Bool) × τ
  | s, [] => ([], s)
  | s, (name, value) :: rest =>
    let (answer, s) := sm.setPropertyValue s name value timestamp
    let (answers, s) := setEach sm timestamp s rest
    (answer :: answers, s)

/-- A call of `SetPropertyValue`: the name, the value and the timestamp. -/
abbrev PropertyCall := String × Any × Time

/-- `sm` with a log of the calls made to it, newest first. -/
def logged (sm : StateManager τ Value) : StateManager (τ × List PropertyCall) Value where
  setPropertyValue := fun (s, log) name value timestamp =>
    let (answer, s) := sm.setPropertyValue s name value timestamp
    (answer, (s, (name, value, timestamp) :: log))
  getStateValuesAsJson := fun (s, _) => sm.getStateValuesAsJson s

@[simp] theorem logged_setPropertyValue (sm : StateManager τ Value) (s : τ)
    (log : List PropertyCall) (name : String) (value : Any) (timestamp : Time) :
    sm.logged.setPropertyValue (s, log) name value timestamp =
      ((sm.setPropertyValue s name value timestamp).1,
        ((sm.setPropertyValue s name value timestamp).2, (name, value, timestamp) :: log)) := rfl

/-- The errors convention: a write that fails has added an error. -/
def SetsErrors (sm : StateManager τ Value) : Prop :=
  ∀ s name value timestamp, (sm.setPropertyValue s name value timestamp).1.result = false →
    (sm.setPropertyValue s name value timestamp).1.added ≠ []

/-- What `SetPropertyValue` promises, read through `get`, the current value of a property: a
write that succeeds sets its property, and a write leaves every other property as it was, and
its own too when it fails. -/
structure Writes (sm : StateManager τ Value) (get : τ → String → Option Any) : Prop where
  sets : ∀ s name value timestamp, (sm.setPropertyValue s name value timestamp).1.result = true →
    get (sm.setPropertyValue s name value timestamp).2 name = some value
  keeps : ∀ s name value timestamp name',
    name' ≠ name ∨ (sm.setPropertyValue s name value timestamp).1.result = false →
      get (sm.setPropertyValue s name value timestamp).2 name' = get s name'

theorem mem_setEach {sm : StateManager τ Value} {timestamp : Time} {a : Answer Bool} :
    ∀ {s : τ} {l : List (String × Any)}, a ∈ (sm.setEach timestamp s l).1 →
      ∃ s' name value, a = (sm.setPropertyValue s' name value timestamp).1
  | _, [], h => by simp [setEach] at h
  | s, (name, value) :: rest, h => by
    simp only [setEach, List.mem_cons] at h
    rcases h with rfl | h
    · exact ⟨s, name, value, rfl⟩
    · exact mem_setEach h

theorem setEach_logged (sm : StateManager τ Value) (timestamp : Time) :
    ∀ (s : τ) (log : List PropertyCall) (l : List (String × Any)),
      sm.logged.setEach timestamp (s, log) l =
        ((sm.setEach timestamp s l).1,
          ((sm.setEach timestamp s l).2, (l.map fun p => (p.1, p.2, timestamp)).reverse ++ log))
  | _, _, [] => rfl
  | s, log, (name, value) :: rest => by
    simp [setEach, setEach_logged sm timestamp _ _ rest]

theorem Writes.setEach_other {sm : StateManager τ Value} {get : τ → String → Option Any}
    (hw : sm.Writes get) (timestamp : Time) (name' : String) :
    ∀ (s : τ) (l : List (String × Any)), name' ∉ l.map (·.1) →
      get (sm.setEach timestamp s l).2 name' = get s name'
  | _, [], _ => rfl
  | s, (name, value) :: rest, h => by
    simp only [List.map_cons, List.mem_cons, not_or] at h
    simp only [setEach]
    rw [hw.setEach_other timestamp name' _ rest h.2, hw.keeps _ _ _ _ _ (.inl h.1)]

theorem Writes.setEach_entry {sm : StateManager τ Value} {get : τ → String → Option Any}
    (hw : sm.Writes get) (timestamp : Time) :
    ∀ (s : τ) (l : List (String × Any)), l.Pairwise (fun a b => a.1 < b.1) →
      ∀ p ∈ l.zip (sm.setEach timestamp s l).1,
        get (sm.setEach timestamp s l).2 p.1.1 = if p.2.result then some p.1.2 else get s p.1.1
  | _, [], _, _, hp => by simp at hp
  | s, (name, value) :: rest, hs, p, hp => by
    rw [List.pairwise_cons] at hs
    simp only [setEach, List.zip_cons_cons, List.mem_cons] at hp ⊢
    rcases hp with rfl | hp
    · -- The entry itself: no later entry writes its name.
      rw [hw.setEach_other timestamp name _ rest fun hn => by
        obtain ⟨q, hq, he⟩ := List.mem_map.1 hn
        exact (hs.1 q hq).ne he.symm]
      cases hr : (sm.setPropertyValue s name value timestamp).1.result
      · simpa using hw.keeps s name value timestamp name (.inr hr)
      · simpa using hw.sets s name value timestamp hr
    · -- A later entry: this write did not touch it.
      have hne : p.1.1 ≠ name := (hs.1 p.1 (List.of_mem_zip hp).1).ne'
      rw [hw.setEach_entry timestamp _ rest hs.2 p hp, hw.keeps _ _ _ _ _ (.inl hne)]

theorem Writes.setEach_origin {sm : StateManager τ Value} {get : τ → String → Option Any}
    (hw : sm.Writes get) (timestamp : Time) (name : String) :
    ∀ (s : τ) (l : List (String × Any)),
      get (sm.setEach timestamp s l).2 name = get s name ∨
        ∃ value, (name, value) ∈ l ∧ get (sm.setEach timestamp s l).2 name = some value
  | _, [] => .inl rfl
  | s, (name', value') :: rest => by
    simp only [setEach]
    rcases hw.setEach_origin timestamp name _ rest with h | ⟨value, hv, h⟩
    · rw [h]
      by_cases hkeep :
          name ≠ name' ∨ (sm.setPropertyValue s name' value' timestamp).1.result = false
      · -- The first write left the property as it was.
        exact .inl (hw.keeps s name' value' timestamp name hkeep)
      · -- The first write set it.
        obtain ⟨rfl, hr⟩ : name = name' ∧
            (sm.setPropertyValue s name' value' timestamp).1.result = true := by
          simpa using hkeep
        exact .inr ⟨value', List.mem_cons_self _ _, hw.sets s name value' timestamp hr⟩
    · exact .inr ⟨value, List.mem_cons_of_mem _ hv, h⟩

end StateManager

open StateManager

/-- The loop of `UpdateState` is `setEach`: the state it leaves, every entry any call added on
the one `ErrorPtr`, and whether every call succeeded. -/
theorem setProperties_eq (sm : StateManager τ Value) (timestamp : Time) :
    ∀ (l : List (String × Any)) (s : τ) (error : ErrorPtr) (allSuccess : Bool),
      setProperties sm timestamp l (s, error, allSuccess) =
        ((sm.setEach timestamp s l).2,
          error.addEntries ((sm.setEach timestamp s l).1.flatMap (·.added)),
          allSuccess && (sm.setEach timestamp s l).1.all (·.result))
  | [], _, _, _ => by simp [setProperties, setEach, ErrorPtr.addEntries]
  | (name, value) :: rest, s, error, allSuccess => by
    rcases h : sm.setPropertyValue s name value timestamp with ⟨⟨_ | _, added⟩, s'⟩ <;>
      simp [setProperties, setEach, h, setProperties_eq sm timestamp rest, ErrorPtr.addEntries,
        List.foldl_append]

theorem updateState_eq (sm : StateManager τ Value) (s : τ) (timestamp : Time)
    (propertySet : VariantDictionary) :
    updateState sm s timestamp propertySet =
      ((sm.setEach timestamp s propertySet.entries).2,
        [if (sm.setEach timestamp s propertySet.entries).1.all (·.result) then .return []
          else .replyWithError (ErrorPtr.addEntries none
            ((sm.setEach timestamp s propertySet.entries).1.flatMap (·.added)))]) := by
  by_cases h : (sm.setEach timestamp s propertySet.entries).1.all (·.result) <;>
    simp [updateState, setProperties_eq, h]

theorem updateState_logged (sm : StateManager τ Value) (s : τ) (log : List PropertyCall)
    (timestamp : Time) (propertySet : VariantDictionary) :
    (updateState sm.logged (s, log) timestamp propertySet).1.2 =
      (propertySet.entries.map fun p => (p.1, p.2, timestamp)).reverse ++ log := by
  simp only [updateState, setProperties_eq, setEach_logged]
  split <;> rfl

theorem updateState_replies_once (sm : StateManager τ Value) (hsm : sm.SetsErrors) (s : τ)
    (timestamp : Time) (propertySet : VariantDictionary) :
    RepliesOnce (updateState sm s timestamp propertySet).2 := by
  rw [updateState_eq]
  split_ifs with h
  · simp
  · -- Some call failed, and that call added an error.
    obtain ⟨a, ha, hfail⟩ : ∃ a ∈ (sm.setEach timestamp s propertySet.entries).1,
        a.result = false := by simpa using h
    obtain ⟨s', name, value, rfl⟩ := mem_setEach ha
    have hne : (sm.setEach timestamp s propertySet.entries).1.flatMap (·.added) ≠ [] := by
      rw [Ne, List.flatMap_eq_nil_iff]
      exact fun hall => hsm s' name value timestamp hfail (hall _ ha)
    simpa using ErrorPtr.addEntries_isSome hne none

theorem update_state_commits (sm : StateManager τ Value) (get : τ → String → Option Any)
    (hw : sm.Writes get) (s : τ) (timestamp : Time) (propertySet : VariantDictionary) :
    (∀ p ∈ propertySet.entries.zip (sm.setEach timestamp s propertySet.entries).1,
      get (updateState sm s timestamp propertySet).1 p.1.1 =
        if p.2.result then some p.1.2 else get s p.1.1) ∧
    ∀ name, name ∉ propertySet.entries.map (·.1) →
      get (updateState sm s timestamp propertySet).1 name = get s name := by
  rw [updateState_eq]
  exact ⟨hw.setEach_entry timestamp s _ propertySet.sorted,
    fun name h => hw.setEach_other timestamp name s _ h⟩

/-- A state manager whose only schema check is that a value is an `int32`. -/
def int32StateManager : StateManager (String → Option Any) Unit where
  setPropertyValue s name value _ := match value with
    | .int32 _ => (⟨true, []⟩, Function.update s name (some value))
    | _ => (⟨false, [⟨⟨"SetPropertyValue", "state_manager.cc", 0⟩, "buffet", "type_mismatch",
      "int32 expected"⟩]⟩, s)
  getStateValuesAsJson _ := ⟨some (), []⟩

theorem int32StateManager_writes : int32StateManager.Writes (fun s => s) where
  sets s name value _ h := by
    cases value <;> simp_all [int32StateManager]
  keeps s name value _ name' h := by
    cases value <;> rcases h with h | h <;> simp_all [int32StateManager, Function.update_noteq]

theorem update_state_commits_height :
    (updateState int32StateManager (fun _ => none) 0
      ⟨[("height", .int32 53)], List.pairwise_singleton _ _⟩).1 "height" = some (.int32 53) := by
  simpa [int32StateManager, setEach] using (update_state_commits int32StateManager (fun s => s)
    int32StateManager_writes (fun _ => none) 0
    ⟨[("height", .int32 53)], List.pairwise_singleton _ _⟩).1 _ (List.mem_singleton_self _)

theorem update_state_batch (sm : StateManager τ Value) (s : τ) (timestamp : Time)
    (propertySet : VariantDictionary) :
    updateState sm s timestamp propertySet =
      ((sm.setEach timestamp s propertySet.entries).2,
        [if (sm.setEach timestamp s propertySet.entries).1.all (·.result) then .return []
          else .replyWithError (ErrorPtr.addEntries none
            ((sm.setEach timestamp s propertySet.entries).1.flatMap (·.added)))]) ∧
    ∀ log : List PropertyCall,
      (updateState sm.logged (s, log) timestamp propertySet).1.2 =
        (propertySet.entries.map fun p => (p.1, p.2, timestamp)).reverse ++ log :=
  ⟨updateState_eq sm s timestamp propertySet,
    fun log => updateState_logged sm s log timestamp propertySet⟩

end Buffet
