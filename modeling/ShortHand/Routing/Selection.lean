import ShortHand.Routing.Hardware

/-! `selectHardwareRoute` selects the first usable device of the first wanted class that has
one. -/

namespace ShortHand.Routing

open List

variable (capabilities : List BackendCapabilities) (model : ModelSpec)
  (policy : HardwareRoutingPolicy)

/-- The device may be used under the policy. -/
structure HardwareDeviceCapability.Usable (device : HardwareDeviceCapability) : Prop where
  detected : device.detected = true
  accessible : device.accessible = true
  permitted : device.deviceClass ∉ policy.denyList
  large : policy.minimumMemoryMb ≤ device.memoryMb

/-- The backend can execute the model on the device. -/
structure BackendCapabilities.Executes (device : HardwareDeviceCapability)
    (capability : BackendCapabilities) : Prop where
  available : capability.available = true
  real : capability.kind ≠ .fallback
  allowed : modelAllowsBackend model capability.kind = true
  device : backendSupportsDevice capability.kind device.deviceClass = true
  format : backendSupportsFormat capability model.format = true
  precision : precisionSupported capability model.precision = true

/-- The device is usable and some backend can execute on it. -/
def Candidate (device : HardwareDeviceCapability) : Prop :=
  device.Usable policy ∧ ∃ capability ∈ capabilities, capability.Executes model device

variable {capabilities model policy} {device : HardwareDeviceCapability}

theorem usable_iff : (!device.detected || !device.accessible || !policyAllowsDevice policy device) =
    false ↔ device.Usable policy := by
  simp only [policyAllowsDevice, Bool.or_eq_false_iff, Bool.not_eq_false', Bool.and_eq_true,
    Bool.not_eq_true', contains_eq_mem, decide_eq_false_iff_not, Bool.and_eq_false_iff,
    decide_eq_false_iff_not, gt_iff_lt]
  constructor
  · rintro ⟨⟨detected, accessible⟩, permitted, large⟩
    exact ⟨detected, accessible, permitted, by omega⟩
  · rintro ⟨detected, accessible, permitted, large⟩
    exact ⟨⟨detected, accessible⟩, permitted, by omega⟩

theorem executes_iff {capability : BackendCapabilities} :
    (capability.available && backendFits device model capability) = true ↔
      capability.Executes model device := by
  simp only [backendFits, Bool.and_eq_true, bne_iff_ne]
  constructor
  · rintro ⟨available, ⟨⟨⟨real, allowed⟩, device⟩, format⟩, precision⟩
    exact ⟨available, real, allowed, device, format, precision⟩
  · rintro ⟨available, real, allowed, device, format, precision⟩
    exact ⟨available, ⟨⟨⟨real, allowed⟩, device⟩, format⟩, precision⟩

/-- The first backend that can execute, on a usable device. -/
theorem executionReadyBackend_eq_some_iff {backend : BackendCapabilities} :
    executionReadyBackend device capabilities model policy = some backend ↔
      device.Usable policy ∧ backend.Executes model device ∧
        ∃ before after, capabilities = before ++ backend :: after ∧
          ∀ earlier ∈ before, ¬ earlier.Executes model device := by
  unfold executionReadyBackend
  split
  · rename_i refused
    refine ⟨nofun, fun ⟨usable, _⟩ => ?_⟩
    rw [usable_iff.mpr usable] at refused
    cases refused
  · rename_i accepted
    rw [Bool.not_eq_true, usable_iff] at accepted
    simp only [find?_eq_some_iff_append, executes_iff, Bool.not_eq_true', ← Bool.not_eq_true,
      accepted, true_and]

theorem executionReadyBackend_eq_none_iff :
    executionReadyBackend device capabilities model policy = none ↔
      ¬ Candidate capabilities model policy device := by
  unfold executionReadyBackend
  split
  · rename_i refused
    refine ⟨fun _ ⟨usable, _⟩ => ?_, fun _ => rfl⟩
    rw [usable_iff.mpr usable] at refused
    cases refused
  · rename_i accepted
    rw [Bool.not_eq_true, usable_iff] at accepted
    simp only [find?_eq_none, executes_iff, Candidate, accepted, true_and, not_exists, not_and]

/-- No device of the class is a candidate. -/
theorem firstOfClass_eq_none_iff {devices : List HardwareDeviceCapability} {wanted : DeviceClass} :
    (devices.findSome? fun device =>
      if device.deviceClass != wanted then none
      else (executionReadyBackend device capabilities model policy).map fun backend =>
        (device, backend)) = none ↔
      ∀ device ∈ devices, device.deviceClass = wanted →
        ¬ Candidate capabilities model policy device := by
  simp only [findSome?_eq_none_iff, ite_eq_left_iff, Bool.not_eq_true, bne_eq_false_iff_eq,
    Option.map_eq_none_iff, executionReadyBackend_eq_none_iff]

/-- The first class of the order with a candidate, its first candidate in the device
list, and the first backend that can execute on it. -/
structure Earliest (devices : List HardwareDeviceCapability)
    (capabilities : List BackendCapabilities) (model : ModelSpec) (policy : HardwareRoutingPolicy)
    (device : HardwareDeviceCapability) (backend : BackendCapabilities) : Prop where
  usable : device.Usable policy
  executes : backend.Executes model device
  firstClass : ∃ before after, routingOrder policy = before ++ device.deviceClass :: after ∧
    ∀ earlier ∈ before, ∀ other ∈ devices, other.deviceClass = earlier →
      ¬ Candidate capabilities model policy other
  firstDevice : ∃ before after, devices = before ++ device :: after ∧
    ∀ other ∈ before, other.deviceClass = device.deviceClass →
      ¬ Candidate capabilities model policy other
  firstBackend : ∃ before after, capabilities = before ++ backend :: after ∧
    ∀ earlier ∈ before, ¬ earlier.Executes model device

/-- The route that a device and a backend give, before its texts. -/
def routeTo (device : HardwareDeviceCapability) (backend : BackendCapabilities) : HardwareRoute where
  selected := true
  deviceClass := device.deviceClass
  deviceId :=
    if device.deviceId.isEmpty then deviceClassToString device.deviceClass ++ ":0"
    else device.deviceId
  backend := backend.kind
  backendName := if backend.name.isEmpty then backendKindToString backend.kind else backend.name
  reason := "selected_execution_ready_backend"

variable {devices : List HardwareDeviceCapability}

/-- Either no wanted device is a candidate, or the earliest one is chosen. -/
theorem chooseRoute_cases :
    (chooseRoute devices capabilities model policy = {} ∧
      ∀ device ∈ devices, device.deviceClass ∈ routingOrder policy →
        ¬ Candidate capabilities model policy device) ∨
    ∃ device backend, chooseRoute devices capabilities model policy = routeTo device backend ∧
      Earliest devices capabilities model policy device backend := by
  unfold chooseRoute
  dsimp only
  split
  · rename_i none
    refine .inl ⟨rfl, fun device inside wanted => ?_⟩
    exact firstOfClass_eq_none_iff.mp (findSome?_eq_none_iff.mp none _ wanted) device inside rfl
  · rename_i device backend found
    refine .inr ⟨device, backend, rfl, ?_⟩
    obtain ⟨classes, wanted, laterClasses, order, ofClass, noEarlier⟩ :=
      findSome?_eq_some_iff.mp found
    obtain ⟨before, chosen, after, listed, ready, noneBefore⟩ :=
      findSome?_eq_some_iff.mp ofClass
    split at ready
    · cases ready
    rename_i same
    rw [Bool.not_eq_true, bne_eq_false_iff_eq] at same
    obtain ⟨capability, first, pair⟩ := Option.map_eq_some_iff.mp ready
    cases pair
    subst same
    obtain ⟨usable, executes, firstBackend⟩ := executionReadyBackend_eq_some_iff.mp first
    refine ⟨usable, executes, ⟨classes, laterClasses, order, ?_⟩, ⟨before, after, listed, ?_⟩,
      firstBackend⟩
    · intro earlier inside
      exact firstOfClass_eq_none_iff.mp (noEarlier earlier inside)
    · exact firstOfClass_eq_none_iff.mp (findSome?_eq_none_iff.mpr noneBefore)

theorem mem_dedup {unique order : List DeviceClass} {device : DeviceClass}
    (inside : device ∈ order.foldl
      (fun unique device => if unique.contains device then unique else unique ++ [device]) unique) :
    device ∈ unique ∨ device ∈ order := by
  induction order generalizing unique with
  | nil => exact .inl inside
  | cons head rest ih =>
    rcases ih inside with earlier | later
    · dsimp only at earlier
      split at earlier
      · exact .inl earlier
      · rcases mem_append.mp earlier with before | last
        · exact .inl before
        · exact .inr (mem_singleton.mp last ▸ mem_cons_self)
    · exact .inr (mem_cons_of_mem _ later)

theorem cpu_not_mem_routingOrder (strict : policy.allowCpuFallback = false) :
    .cpu ∉ routingOrder policy := by
  intro inside
  simp only [routingOrder, strict, Bool.false_eq_true, if_false] at inside
  rcases mem_dedup inside with empty | listed
  · cases empty
  · simpa using (mem_filter.mp listed).2

end ShortHand.Routing
