import BreadProvider.Inventory.Locality
import BreadProvider.Inventory.Published

/-!
# Provider — the encoders of a spec

Whether a spec says its motors have encoders changes what the device at its
address publishes and nothing else: not which probes become devices, nor any
id, family, address or capability profile.
-/

namespace BreadProvider

/-- The same specs, with encoders where `e` says. -/
def DeviceSpec.withEncoders (e : DeviceSpec → Bool) (spec : DeviceSpec) :
    DeviceSpec :=
  { spec with encoders := e spec }

def ProviderConfig.withEncoders (config : ProviderConfig)
    (e : DeviceSpec → Bool) : ProviderConfig :=
  { config with devices := config.devices.map (DeviceSpec.withEncoders e) }

theorem ProviderConfig.Distinct.withEncoders {config : ProviderConfig}
    (h : config.Distinct) (e : DeviceSpec → Bool) :
    (config.withEncoders e).Distinct where
  ids := by
    show ((config.devices.map _).map _).Nodup
    rw [List.map_map]
    exact h.ids
  addresses := by
    show ((config.devices.map _).map _).Nodup
    rw [List.map_map]
    exact h.addresses

namespace Inventory

variable {c : Contracts} {config : ProviderConfig} {source : InventorySource}

/-! ## Where a device of any roster comes from -/

/-- Every device of an inventory is what one of the probes becomes. -/
theorem buildInventory_deviceOf {probes : List ProbeRecord} {d : InventoryDevice}
    (hd : d ∈ (buildInventoryFromProbes c config probes
      source).supportedDevices) :
    ∃ p ∈ probes, ∃ type index, acceptedType c config p = some type ∧
      d = deviceOf c config source type index p := by
  have hfold : ∀ (l : List ProbeRecord) (st : BuildState config.devices.length),
      d ∈ (l.foldl (placeProbe c config source) st).supported →
      d ∈ st.supported ∨ ∃ p ∈ l, ∃ type index,
        acceptedType c config p = some type ∧
          d = deviceOf c config source type index p := by
    intro l
    induction l with
    | nil =>
        intro st h
        exact .inl h
    | cons p rest ih =>
        intro st h
        rcases ih _ h with hst | ⟨q, hq, hrest⟩
        · cases hacc : acceptedType c config p with
          | none =>
              rw [placeProbe_excluded c config source hacc] at hst
              exact .inl hst
          | some type =>
              rw [placeProbe_accepted c config source hacc] at hst
              rcases List.mem_append.mp hst with hst | hst
              · refine .inl ?_
                rwa [bump_supported, markMatch_supported] at hst
              · exact .inr ⟨p, List.mem_cons_self, type, _, hacc,
                  List.mem_singleton.mp hst⟩
        · exact .inr ⟨q, List.mem_cons_of_mem _ hq, hrest⟩
  rcases hfold (sortProbes probes) {} hd with hnil | ⟨p, hp, hrest⟩
  · exact absurd hnil List.not_mem_nil
  · exact ⟨p, mem_sortProbes.mp hp, hrest⟩

theorem buildInventory_address {probes : List ProbeRecord} {d : InventoryDevice}
    (hd : d ∈ (buildInventoryFromProbes c config probes
      source).supportedDevices) : ∃ p ∈ probes, d.address = p.address := by
  obtain ⟨p, hp, type, index, -, rfl⟩ := buildInventory_deviceOf hd
  exact ⟨p, hp, deviceOf_address ..⟩

/-- A device at a configured address is of the type of the spec there, and
has the encoders the spec says it has. -/
theorem buildInventory_configured (hdist : config.Distinct)
    {probes : List ProbeRecord} {d : InventoryDevice}
    (hd : d ∈ (buildInventoryFromProbes c config probes
      source).supportedDevices) {spec : DeviceSpec}
    (hspec : spec ∈ config.devices) (haddress : spec.address = d.address) :
    d.type = spec.type ∧
      (spec.type = .dcmt → d.encoders = spec.encoders) := by
  obtain ⟨p, -, type, index, hacc, rfl⟩ := buildInventory_deviceOf hd
  rw [deviceOf_address] at haddress
  have hat : specAt config p.address = some spec :=
    (specAt_eq_some_iff hdist).mpr ⟨hspec, haddress⟩
  obtain rfl := acceptedType_matched hat hacc
  refine ⟨deviceOf_type .., fun hdcmt => ?_⟩
  rw [deviceOf_matched hat, matchedDevice, hdcmt]
  cases hencoders : spec.encoders <;> simp [applySpec, buildDevice, hencoders]

/-! ## Two configs that differ in encoders -/

theorem specAt_withEncoders (hdist : config.Distinct) (e : DeviceSpec → Bool)
    (address : Int) :
    specAt (config.withEncoders e) address
      = (specAt config address).map (DeviceSpec.withEncoders e) := by
  ext spec
  rw [specAt_eq_some_iff (hdist.withEncoders e), Option.map_eq_some_iff]
  constructor
  · intro ⟨hmem, haddress⟩
    obtain ⟨spec', hmem', rfl⟩ := List.mem_map.mp hmem
    exact ⟨spec', (specAt_eq_some_iff hdist).mpr ⟨hmem', haddress⟩, rfl⟩
  · intro ⟨spec', hat, hspec⟩
    subst hspec
    obtain ⟨hmem, haddress⟩ := (specAt_eq_some_iff hdist).mp hat
    exact ⟨List.mem_map_of_mem hmem, haddress⟩

theorem acceptedType_withEncoders (hdist : config.Distinct)
    (e : DeviceSpec → Bool) (probe : ProbeRecord) :
    acceptedType c (config.withEncoders e) probe
      = acceptedType c config probe := by
  rw [acceptedType_specAt, acceptedType_specAt, specAt_withEncoders hdist]
  cases specAt config probe.address <;> rfl

/-- What a roster says of a device apart from its capabilities. -/
structure Identity where
  id : String
  type : DeviceType
  address : Int
  capabilityProfile : CapabilityProfile

def identity (d : InventoryDevice) : Identity :=
  { id := d.id, type := d.type, address := d.address
    capabilityProfile := d.capabilityProfile }

@[simp] theorem identity_applySpec (spec : DeviceSpec) (type : DeviceType)
    (d : InventoryDevice) : identity (applySpec c spec type d) = identity d := by
  unfold applySpec
  dsimp only
  split <;> rfl

theorem identity_deviceOf (hdist : config.Distinct) (e : DeviceSpec → Bool)
    (type : DeviceType) (index : Nat) (probe : ProbeRecord) :
    identity (deviceOf c (config.withEncoders e) source type index probe)
      = identity (deviceOf c config source type index probe) := by
  rw [deviceOf_specAt, deviceOf_specAt, specAt_withEncoders hdist]
  cases specAt config probe.address with
  | none => rfl
  | some spec =>
      show identity (applySpec ..) = identity (applySpec ..)
      rw [identity_applySpec, identity_applySpec]
      rfl

/-- Two walks that have made the same devices, capabilities apart. -/
structure SameWalk {n n' : Nat} (st : BuildState n) (st' : BuildState n') :
    Prop where
  supported : st'.supported.map identity = st.supported.map identity
  counter : ∀ type, st'.counter type = st.counter type

theorem placeProbe_sameWalk (hdist : config.Distinct) (e : DeviceSpec → Bool)
    {st : BuildState config.devices.length}
    {st' : BuildState (config.withEncoders e).devices.length}
    (h : SameWalk st st') (probe : ProbeRecord) :
    SameWalk (placeProbe c config source st probe)
      (placeProbe c (config.withEncoders e) source st' probe) := by
  have hacc' := acceptedType_withEncoders (c := c) hdist e probe
  cases hacc : acceptedType c config probe with
  | none =>
      rw [hacc] at hacc'
      rw [placeProbe_excluded c config source hacc,
        placeProbe_excluded c _ source hacc']
      exact ⟨h.supported, h.counter⟩
  | some type =>
      rw [hacc] at hacc'
      rw [placeProbe_accepted c config source hacc,
        placeProbe_accepted c _ source hacc', h.counter]
      constructor
      · simp only [BuildState.accept, bump_supported, markMatch_supported,
          List.map_append, List.map_singleton, h.supported,
          identity_deviceOf hdist]
      · intro t
        have haccept : ∀ {n : Nat} (st : BuildState n) (d : InventoryDevice),
            (st.accept d).counter t = st.counter t := by
          intro n st d
          cases t <;> rfl
        simp only [haccept, bump_counter, markMatch_counter, h.counter]

/-- The encoders of the specs change no id, type, address or capability
profile of a roster. -/
theorem buildInventory_withEncoders (hdist : config.Distinct)
    (e : DeviceSpec → Bool) (probes : List ProbeRecord) :
    (buildInventoryFromProbes c (config.withEncoders e) probes
        source).supportedDevices.map identity
      = (buildInventoryFromProbes c config probes
        source).supportedDevices.map identity := by
  have hfold : ∀ (l : List ProbeRecord) (st : BuildState config.devices.length)
      (st' : BuildState (config.withEncoders e).devices.length),
      SameWalk st st' →
      SameWalk (l.foldl (placeProbe c config source) st)
        (l.foldl (placeProbe c (config.withEncoders e) source) st') := by
    intro l
    induction l with
    | nil => exact fun _ _ h => h
    | cons p rest ih =>
        exact fun st st' h => ih _ _ (placeProbe_sameWalk hdist e h p)
  have hsame := hfold (sortProbes probes) {} {}
    ⟨rfl, fun type => by cases type <;> rfl⟩
  exact hsame.supported

/-- Nor what a config suggests as its own probes. -/
theorem buildSeedProbes_withEncoders (e : DeviceSpec → Bool) :
    buildSeedProbes c (config.withEncoders e) = buildSeedProbes c config := by
  show (config.devices.map _).map _ = _
  rw [List.map_map]
  rfl

/-! ## What is published without encoders -/

/-- The functions that set or tune a closed loop. -/
def closedLoopFunctions : List String :=
  ["set_setpoint", "set_pid_x1000", "set_speed_pid_x1000"]

theorem dcmtFunctions_masked {flags : UInt32} {f : FunctionSpec}
    (hf : f ∈ dcmtFunctions c (flags &&& ~~~ kEncoderCaps c)) :
    f.functionId ∈ [1, 2, 3, 6] ∧ f.name ∉ closedLoopFunctions ∧
      (f.name = "set_mode" → f.args
        = [{ arg "mode" .string with allowedValues := ["open_loop"] }]) := by
  obtain ⟨-, -, hpid⟩ := or_masked c.dcmt.capClosedLoopPosition
    c.dcmt.capClosedLoopSpeed c.dcmt.capPidTuning
  have htuning : hasFlag (flags &&& ~~~ kEncoderCaps c) c.dcmt.capPidTuning
      = false := hasFlag_masked hpid
  have hloops : hasFlag (flags &&& ~~~ kEncoderCaps c)
      (c.dcmt.capClosedLoopPosition ||| c.dcmt.capClosedLoopSpeed)
        = false := by
    have h := (or_masked (c.dcmt.capClosedLoopPosition
      ||| c.dcmt.capClosedLoopSpeed) c.dcmt.capPidTuning 0).1
    rw [UInt32.or_zero] at h
    exact hasFlag_masked h
  simp only [dcmtFunctions, dcmtPidFunction, dcmtModes_masked, htuning, hloops,
    Bool.false_and, List.mem_append, mem_functionIf] at hf
  rcases hf with (((((⟨-, rfl⟩ | ⟨-, rfl⟩) | ⟨-, rfl⟩) | ⟨h, -⟩) | ⟨h, -⟩)
    | ⟨h, -⟩) | ⟨-, rfl⟩
  · exact ⟨by simp, by simp [closedLoopFunctions],
      fun h => absurd h (by decide)⟩
  · exact ⟨by simp, by simp [closedLoopFunctions],
      fun h => absurd h (by decide)⟩
  · exact ⟨by simp, by simp [closedLoopFunctions], fun _ => rfl⟩
  · exact absurd h Bool.false_ne_true
  · exact absurd h Bool.false_ne_true
  · exact absurd h Bool.false_ne_true
  · exact ⟨by simp, by simp [closedLoopFunctions],
      fun h => absurd h (by decide)⟩

/-- A motor board without encoders offers no closed loop. -/
theorem Published.openLoop {d : InventoryDevice} (h : Published c d)
    (htype : d.type = .dcmt) (hencoders : d.encoders = false)
    {f : FunctionSpec} (hf : f ∈ d.capabilities.functions) :
    f.functionId ∈ [1, 2, 3, 6] ∧ f.name ∉ closedLoopFunctions ∧
      (f.name = "set_mode" → f.args
        = [{ arg "mode" .string with allowedValues := ["open_loop"] }]) := by
  rw [h, publishedFlags, if_pos ⟨htype, hencoders⟩, htype] at hf
  exact dcmtFunctions_masked hf

end Inventory

end BreadProvider
