import Buffet.Manager

/-! # Registration: `CheckDeviceRegistered`, `GetDeviceInfo` and `RegisterDevice` -/

namespace Buffet

variable {δ Value : Type}

/-- The errors convention `DeviceRegistrationInfo` is meant to keep: a call that reports failure
has added an error. `RegisterDevice` does not rely on it (see its `TODO`), so it is not here. -/
def DeviceRegistrationInfo.SetsErrors (info : DeviceRegistrationInfo δ Value) : Prop :=
  (∀ d, (info.checkRegistration d).1.result = false → (info.checkRegistration d).1.added ≠ []) ∧
  (∀ d, (info.getDeviceInfo d).1.result = none → (info.getDeviceInfo d).1.added ≠ [])

/-- `CheckDeviceRegistered` by what `CheckRegistration` answered: the device id when the device
is registered; otherwise the empty string when some link of the chain `CheckRegistration` filled
in says the device is not registered, that chain when none does, and a null dereference when it
filled in none. -/
theorem checkDeviceRegistered_eq (kErrorDomainGCD : String)
    (info : DeviceRegistrationInfo δ Value) (d : δ) :
    checkDeviceRegistered kErrorDomainGCD info d =
      if (info.checkRegistration d).1.result then
        .ok ((info.checkRegistration d).2,
          [.return [info.getDeviceId (info.checkRegistration d).2]])
      else if (info.checkRegistration d).1.added = [] then .error .nullDereference
      else if (info.checkRegistration d).1.added.any
          (fun x => x.domain == kErrorDomainGCD && x.code == "device_not_registered") then
        .ok ((info.checkRegistration d).2, [.return [""]])
      else .ok ((info.checkRegistration d).2,
        [.replyWithError (ErrorPtr.addEntries none (info.checkRegistration d).1.added)]) := by
  rcases hc : info.checkRegistration d with ⟨⟨_ | _, added⟩, d'⟩
  · cases he : ErrorPtr.addEntries none added with
    | none =>
      -- Nothing was added, and `error->` dereferences null.
      obtain ⟨-, rfl⟩ := (ErrorPtr.addEntries_eq_none none added).1 he
      simp [checkDeviceRegistered, hc, he, deref]
    | some e =>
      have hne : added ≠ [] := fun h => by simp [h, ErrorPtr.addEntries] at he
      -- `HasError` walks the whole chain, which is `added`, last added first.
      have hany : e.hasError kErrorDomainGCD "device_not_registered" =
          added.any (fun x => x.domain == kErrorDomainGCD && x.code == "device_not_registered") := by
        rw [Error.hasError, show e.links = added.reverse by
          simpa [he] using ErrorPtr.addEntries_links none added, List.any_reverse]
      cases hk : added.any
          (fun x => x.domain == kErrorDomainGCD && x.code == "device_not_registered") <;>
        simp [checkDeviceRegistered, hc, he, hne, deref, hany, hk]
  · simp [checkDeviceRegistered, hc]

theorem checkDeviceRegistered_cases (kErrorDomainGCD : String)
    (info : DeviceRegistrationInfo δ Value) (d : δ) :
    checkDeviceRegistered kErrorDomainGCD info d = .error .nullDereference ∨
      ∃ replies, checkDeviceRegistered kErrorDomainGCD info d =
        .ok ((info.checkRegistration d).2, replies) := by
  rw [checkDeviceRegistered_eq]
  split_ifs <;> simp

theorem checkDeviceRegistered_replies_once (kErrorDomainGCD : String)
    (info : DeviceRegistrationInfo δ Value) (d : δ)
    (h : (info.checkRegistration d).1.result = false → (info.checkRegistration d).1.added ≠ []) :
    CompletesOnce (checkDeviceRegistered kErrorDomainGCD info d) := by
  rw [checkDeviceRegistered_eq]
  split_ifs with hr hadd
  · simp
  · exact absurd hadd (h (by simpa using hr))
  · simp
  · simpa using ErrorPtr.addEntries_isSome hadd none

theorem getDeviceInfo_replies_once (writeJson : Value → String)
    (info : DeviceRegistrationInfo δ Value) (d : δ)
    (h : (info.getDeviceInfo d).1.result = none → (info.getDeviceInfo d).1.added ≠ []) :
    RepliesOnce (getDeviceInfo writeJson info d).2 := by
  rcases hc : info.getDeviceInfo d with ⟨⟨_ | info, added⟩, d'⟩
  · simpa [getDeviceInfo, hc] using
      ErrorPtr.addEntries_isSome (by simpa [hc] using h) none
  · simp [getDeviceInfo, hc]

theorem getDeviceInfo_state (writeJson : Value → String) (info : DeviceRegistrationInfo δ Value)
    (d : δ) : (getDeviceInfo writeJson info d).1 = (info.getDeviceInfo d).2 := by
  rcases hc : info.getDeviceInfo d with ⟨⟨_ | _, added⟩, d'⟩ <;> simp [getDeviceInfo, hc]

/-! ## RegisterDevice -/

theorem strParamsOf_eq (l : List (String × Any)) (m : StdMap String String) :
    strParamsOf l m = if l.all (·.2.isTypeCompatibleString) then
      some (l.foldl (fun m p => m.emplaceHint p.1 p.2.getString) m) else none := by
  induction l generalizing m with
  | nil => rfl
  | cons p rest ih =>
    obtain ⟨key, value⟩ := p
    cases h : value.isTypeCompatibleString <;> simp only [strParamsOf, List.all_cons, h, ih] <;> rfl

/-- Whatever `DeviceRegistrationInfo::RegisterDevice` answers, the reply is sound: a missing
error is made up by the handler. -/
theorem registrationReply_sound (kErrorDomainGCD : String) (answer : Answer String) :
    (registrationReply kErrorDomainGCD answer).Sound := by
  dsimp only [registrationReply]
  split_ifs with h h' <;> simp_all [Error.addTo, Option.isSome_iff_ne_none]

theorem registerDevice_replies_once (kErrorDomainGCD : String)
    (info : DeviceRegistrationInfo δ Value) (d : δ) (params : VariantDictionary) :
    RepliesOnce (registerDevice kErrorDomainGCD info d params).2 := by
  unfold registerDevice
  split
  · simp [Reply.withNewError, Error.addTo]
  · simpa using registrationReply_sound kErrorDomainGCD _

theorem registerDevice_state (kErrorDomainGCD : String) (info : DeviceRegistrationInfo δ Value)
    (d : δ) (params : VariantDictionary) :
    (registerDevice kErrorDomainGCD info d params).1 = d ∨
      ∃ strParams, (registerDevice kErrorDomainGCD info d params).1 =
        (info.registerDevice d strParams).2 := by
  unfold registerDevice
  split
  · exact .inl rfl
  · exact .inr ⟨_, rfl⟩

theorem register_device_all_or_nothing (kErrorDomainGCD : String)
    (info : DeviceRegistrationInfo δ Value) (d : δ) (params : VariantDictionary) :
    ((∃ p ∈ params.entries, p.2.isTypeCompatibleString = false) →
      registerDevice kErrorDomainGCD info d params =
        (d, [.withNewError (fromHere "RegisterDevice" 122) Errors.Dbus.kDomain
          dbusErrorInvalidArgs "String value expected"])) ∧
    ((∀ p ∈ params.entries, p.2.isTypeCompatibleString = true) →
      ∃ strParams : StdMap String String,
        strParams.entries = params.entries.map (fun p => (p.1, p.2.getString)) ∧
        registerDevice kErrorDomainGCD info d params =
          ((info.registerDevice d strParams).2,
            [registrationReply kErrorDomainGCD (info.registerDevice d strParams).1])) := by
  constructor
  · rintro ⟨p, hp, hs⟩
    have : params.entries.all (·.2.isTypeCompatibleString) = false :=
      List.all_eq_false.2 ⟨p, hp, by simp [hs]⟩
    simp [registerDevice, strParamsOf_eq, this]
  · intro hall
    have hmap := StdMap.foldl_emplaceHint_entries Any.getString _ StdMap.empty params.sorted
      (by simp)
    refine ⟨_, by simpa using hmap, ?_⟩
    simp [registerDevice, strParamsOf_eq, List.all_eq_true.2 hall]

/-- A `DeviceRegistrationInfo` that records each map it is asked to register. -/
def recordingDeviceInfo : DeviceRegistrationInfo (List (StdMap String String)) Unit where
  checkRegistration d := (⟨true, []⟩, d)
  getDeviceId _ := "device-1"
  getDeviceInfo d := (⟨none, []⟩, d)
  registerDevice d m := (⟨"device-1", []⟩, m :: d)

/-- A registration request of three string parameters. -/
def lampParams : VariantDictionary :=
  ⟨[("client_id", .string "buffet"), ("name", .string "lamp"), ("ticket_id", .string "1234")],
    by simp [String.lt_iff_toList_lt]; decide⟩

theorem register_device_strings :
    ∃ strParams : StdMap String String,
      strParams.entries = [("client_id", "buffet"), ("name", "lamp"), ("ticket_id", "1234")] ∧
      registerDevice "gcd" recordingDeviceInfo [] lampParams =
        ([strParams], [.return ["device-1"]]) := by
  obtain ⟨strParams, hentries, heq⟩ :=
    (register_device_all_or_nothing "gcd" recordingDeviceInfo [] lampParams).2 (by decide)
  exact ⟨strParams, hentries, by rw [heq]; rfl⟩

end Buffet
