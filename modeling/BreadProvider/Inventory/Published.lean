import BreadProvider.Inventory.Model

/-!
# Provider — what every inventory device is

A device of the inventory is a probe served as some family: with the spec at
its address, if there is one, and on its own otherwise. Whatever the probes
and the config, what it publishes follows from its family, its flags and
whether it has encoders.
-/

namespace BreadProvider.Inventory

variable {c : Contracts} {config : ProviderConfig} {source : InventorySource}

/-! ## Where a device comes from -/

/-- A device is the config's at a matched address, or an extra one. -/
inductive Origin (c : Contracts) (config : ProviderConfig)
    (source : InventorySource) (device : InventoryDevice) : Prop where
  | matched (spec : DeviceSpec) (probe : ProbeRecord)
      (hspec : spec ∈ config.devices) (haddress : spec.address = probe.address)
      (hdevice : device
        = matchedDevice c config source spec spec.type probe)
  | extra (type : DeviceType) (index : Nat) (probe : ProbeRecord)
      (hdevice : device = extraDevice c config source type index probe)

theorem placeProbe_origin {st : BuildState config.devices.length}
    (h : ∀ d ∈ st.supported, Origin c config source d) (probe : ProbeRecord) :
    ∀ d ∈ (placeProbe c config source st probe).supported,
      Origin c config source d := by
  have hbump : ∀ (st : BuildState config.devices.length) type,
      (st.bump type).supported = st.supported := by
    rintro st (_ | _) <;> rfl
  intro d hd
  unfold placeProbe at hd
  split at hd
  · exact h d hd
  · split at hd
    · exact h d hd
    · rename_i type _
      split at hd
      · rename_i i hi
        dsimp only at hd
        split at hd
        · exact h d hd
        · rename_i hne
          obtain rfl : (config.devices.get i).type = type := not_not.mp hne
          rcases List.mem_append.mp hd with hd | hd
          · rw [hbump] at hd
            exact h d hd
          · have haddr : (config.devices.get i).address = probe.address := by
              simpa using (List.findFinIdx?_eq_some_iff.mp hi).1
            exact .matched (config.devices.get i) probe (List.getElem_mem _) haddr
              (List.mem_singleton.mp hd)
      · rcases List.mem_append.mp hd with hd | hd
        · rw [hbump] at hd
          exact h d hd
        · exact .extra type _ probe (List.mem_singleton.mp hd)

theorem buildInventory_origin {probes : List ProbeRecord} :
    ∀ d ∈ (buildInventoryFromProbes c config probes source).supportedDevices,
      Origin c config source d := by
  have hfold : ∀ (l : List ProbeRecord) (st : BuildState _),
      (∀ d ∈ st.supported, Origin c config source d) →
      ∀ d ∈ (l.foldl (placeProbe c config source) st).supported,
        Origin c config source d := by
    intro l
    induction l with
    | nil => exact fun _ h => h
    | cons probe rest ih => exact fun st h => ih _ (placeProbe_origin h probe)
  exact hfold (sortProbes probes) {} (List.forall_mem_nil _)

/-- A device with a watchdog has the spec that asks for it. -/
theorem Origin.armed {device : InventoryDevice} (h : Origin c config source device)
    (hms : 0 < device.commandWatchdogMs) :
    ∃ spec ∈ config.devices, spec.address = device.address ∧
      spec.type = device.type ∧
      spec.commandWatchdogMs = device.commandWatchdogMs := by
  cases h with
  | matched spec probe hspec haddress hdevice =>
      subst hdevice
      refine ⟨spec, hspec, ?_, ?_, ?_⟩
      · simp [matchedDevice, buildDevice, haddress]
      · simp [matchedDevice, buildDevice]
      · simp [matchedDevice]
  | extra type index probe hdevice =>
      subst hdevice
      exact absurd hms (by simp [extraDevice, buildDevice])

/-! ## What it publishes -/

/-- The flags the capability set is built from. -/
def publishedFlags (c : Contracts) (device : InventoryDevice) : UInt32 :=
  if device.type = .dcmt ∧ device.encoders = false then
    device.capabilityProfile.flags &&& ~~~ kEncoderCaps c
  else device.capabilityProfile.flags

/-- The capability set is the one of the device's family and flags. -/
def Published (c : Contracts) (device : InventoryDevice) : Prop :=
  device.capabilities
    = buildCapabilities c device.type (publishedFlags c device)

theorem buildDevice_published (probe : ProbeRecord) (type : DeviceType)
    (expected : Bool) (deviceId label : String) :
    Published c
      (buildDevice c config probe type source expected deviceId label) := by
  simp [Published, publishedFlags, buildDevice]

theorem Published.applySpec {spec : DeviceSpec} {type : DeviceType}
    {device : InventoryDevice} (h : Published c device)
    (htype : device.type = type) (hencoders : device.encoders = true) :
    Published c (applySpec c spec type device) := by
  subst htype
  unfold Inventory.applySpec
  dsimp only
  split
  · rename_i hcond
    simp [Published, publishedFlags, hcond.1]
  · simpa [Published, publishedFlags, hencoders] using h

theorem Origin.published {device : InventoryDevice}
    (h : Origin c config source device) : Published c device := by
  cases h with
  | matched spec probe _ _ hdevice =>
      exact hdevice ▸ (buildDevice_published ..).applySpec rfl rfl
  | extra type index probe hdevice =>
      exact hdevice ▸ buildDevice_published ..

/-- Every device of an inventory publishes what its flags say. -/
theorem buildInventory_published {probes : List ProbeRecord} :
    ∀ d ∈ (buildInventoryFromProbes c config probes source).supportedDevices,
      Published c d :=
  fun d hd => (buildInventory_origin d hd).published

/-- The function that clears a watchdog trip. -/
def clearFunctionId : DeviceType → Nat
  | .rlht => 7
  | .dcmt => 6

/-- The flags that offer a command watchdog and to clear its trip. -/
def watchdogFlags (c : Contracts) : DeviceType → UInt32 × UInt32
  | .rlht => (c.rlht.capCmdWatchdog, c.rlht.capClearWatchdogTrip)
  | .dcmt => (c.dcmt.capCmdWatchdog, c.dcmt.capClearWatchdogTrip)

theorem clear_published {type : DeviceType} {flags : UInt32}
    {f : FunctionSpec} (hf : f ∈ (buildCapabilities c type flags).functions)
    (hid : f.functionId = clearFunctionId type) :
    f.name = "clear_watchdog_trip" ∧
      hasFlag flags (watchdogFlags c type).1 = true ∧
      hasFlag flags (watchdogFlags c type).2 = true := by
  cases type with
  | rlht =>
      change f ∈ rlhtFunctions c flags at hf
      simp only [rlhtFunctions, List.mem_append, mem_functionIf,
        Bool.and_eq_true] at hf
      rcases hf with (((((⟨-, rfl⟩ | ⟨-, rfl⟩) | ⟨-, rfl⟩) | ⟨-, rfl⟩)
        | ⟨-, rfl⟩) | ⟨-, rfl⟩) | ⟨hflags, rfl⟩
      all_goals first | exact ⟨rfl, hflags⟩ | cases hid
  | dcmt =>
      change f ∈ dcmtFunctions c flags at hf
      simp only [dcmtFunctions, dcmtPidFunction, List.mem_append,
        mem_functionIf, Bool.and_eq_true] at hf
      rcases hf with (((((⟨-, rfl⟩ | ⟨-, rfl⟩) | ⟨-, rfl⟩) | ⟨-, rfl⟩)
        | ⟨-, rfl⟩) | ⟨-, rfl⟩) | ⟨hflags, rfl⟩
      all_goals first | exact ⟨rfl, hflags⟩ | cases hid

/-! ## Without encoders -/

/-- Masking flags adds none. -/
theorem hasFlag_of_masked {flags mask m : UInt32}
    (h : hasFlag (flags &&& mask) m = true) : hasFlag flags m = true := by
  simp only [hasFlag, bne_iff_ne, ne_eq] at h ⊢
  intro hm
  refine h ?_
  rw [UInt32.and_assoc, UInt32.and_comm mask, ← UInt32.and_assoc, hm,
    UInt32.zero_and]

theorem hasFlag_masked {flags mask m : UInt32} (h : m &&& ~~~ mask = 0) :
    hasFlag (flags &&& ~~~ mask) m = false := by
  have : flags &&& ~~~ mask &&& m = 0 := by
    rw [UInt32.and_assoc, UInt32.and_comm (~~~ mask), h, UInt32.and_zero]
  simp [hasFlag, this]

theorem or_masked (a b d : UInt32) :
    a &&& ~~~ (a ||| b ||| d) = 0 ∧ b &&& ~~~ (a ||| b ||| d) = 0
      ∧ d &&& ~~~ (a ||| b ||| d) = 0 := by
  refine ⟨?_, ?_, ?_⟩ <;>
  · apply UInt32.eq_of_toBitVec_eq
    ext i
    simp +contextual

/-- The masked flags publish one mode. -/
theorem dcmtModes_masked (flags : UInt32) :
    dcmtModes c (flags &&& ~~~ kEncoderCaps c) = ["open_loop"] := by
  obtain ⟨hposition, hspeed, -⟩ := or_masked c.dcmt.capClosedLoopPosition
    c.dcmt.capClosedLoopSpeed c.dcmt.capPidTuning
  have hp : hasFlag (flags &&& ~~~ kEncoderCaps c)
      c.dcmt.capClosedLoopPosition = false := hasFlag_masked hposition
  have hs : hasFlag (flags &&& ~~~ kEncoderCaps c)
      c.dcmt.capClosedLoopSpeed = false := hasFlag_masked hspeed
  simp [dcmtModes, hp, hs]

theorem hasFlag_of_published {device : InventoryDevice} {m : UInt32}
    (h : hasFlag (publishedFlags c device) m = true) :
    hasFlag device.capabilityProfile.flags m = true := by
  unfold publishedFlags at h
  split at h
  · exact hasFlag_of_masked h
  · exact h

/-- Where the clearing function is offered, the device has both flags. -/
theorem Published.clears {device : InventoryDevice} (h : Published c device)
    {f : FunctionSpec} (hf : f ∈ device.capabilities.functions)
    (hid : f.functionId = clearFunctionId device.type) :
    f.name = "clear_watchdog_trip" ∧
      hasFlag device.capabilityProfile.flags (watchdogFlags c device.type).1
        = true ∧
      hasFlag device.capabilityProfile.flags (watchdogFlags c device.type).2
        = true := by
  rw [h] at hf
  obtain ⟨hname, hcmd, hclear⟩ := clear_published hf hid
  exact ⟨hname, hasFlag_of_published hcmd, hasFlag_of_published hclear⟩

end BreadProvider.Inventory
