import BreadProvider.Contracts.Reference
import BreadProvider.Inventory.Assembly

/-!
# Provider — what an assembly does not depend on

The order of the probes and of the config is lost in the sort and in the
match by address. A device at a configured address is a function of its spec,
its probe, the bus path and the source: the counters, the match table and
everything at another address stay out of it.
-/

namespace BreadProvider.Inventory

variable {c : Contracts} {config config' : ProviderConfig}
  {source : InventorySource}

/-! ## The sort -/

/-- Ascending addresses leave one order only. -/
theorem eq_of_perm_of_ascending {l l' : List ProbeRecord} (hp : l.Perm l')
    (h : l.Pairwise fun p q => p.address < q.address)
    (h' : l'.Pairwise fun p q => p.address < q.address) : l = l' := by
  refine List.Perm.eq_of_pairwise ?_ h h' hp
  intro p q _ _ hpq hqp
  omega

/-- Whatever sorts the probes, stable or not, sorts them so. -/
theorem sortProbes_unique {probes sorted : List ProbeRecord}
    (hp : (probes.map (·.address)).Nodup) (hperm : sorted.Perm probes)
    (h : sorted.Pairwise fun p q => p.address < q.address) :
    sorted = sortProbes probes :=
  eq_of_perm_of_ascending (hperm.trans (sortProbes_perm probes).symm) h
    (sortProbes_ascending hp)

theorem sortProbes_of_perm {probes probes' : List ProbeRecord}
    (hp : (probes.map (·.address)).Nodup) (hperm : probes'.Perm probes) :
    sortProbes probes' = sortProbes probes := by
  have hp' : (probes'.map (·.address)).Nodup :=
    (hperm.map _).nodup_iff.mpr hp
  exact sortProbes_unique hp ((sortProbes_perm probes').trans hperm)
    (sortProbes_ascending hp')

/-! ## The match by address -/

/-- The spec a probe at `address` is matched with. -/
def specAt (config : ProviderConfig) (address : Int) : Option DeviceSpec :=
  (findConfigMatchByAddress config address).map fun i => config.devices.get i

theorem specAt_eq_some_iff (hd : config.Distinct) {address : Int}
    {spec : DeviceSpec} :
    specAt config address = some spec
      ↔ spec ∈ config.devices ∧ spec.address = address := by
  unfold specAt
  rw [Option.map_eq_some_iff]
  constructor
  · intro ⟨i, hi, hspec⟩
    subst hspec
    exact ⟨List.getElem_mem _, findConfigMatch_address hi⟩
  · intro ⟨hspec, haddr⟩
    obtain ⟨i, hi, rfl⟩ := List.getElem_of_mem hspec
    exact ⟨⟨i, hi⟩, (findConfigMatch_iff hd).mpr haddr, rfl⟩

/-- The match sees the specs as a set. -/
theorem specAt_congr (hd : config.Distinct) (hd' : config'.Distinct)
    {address : Int}
    (h : ∀ spec : DeviceSpec, spec.address = address →
      (spec ∈ config'.devices ↔ spec ∈ config.devices)) :
    specAt config' address = specAt config address := by
  ext spec
  rw [specAt_eq_some_iff hd, specAt_eq_some_iff hd']
  constructor
  · intro ⟨hs, ha⟩
    exact ⟨(h spec ha).mp hs, ha⟩
  · intro ⟨hs, ha⟩
    exact ⟨(h spec ha).mpr hs, ha⟩

/-! ## One probe through its match -/

theorem acceptedType_specAt (probe : ProbeRecord) :
    acceptedType c config probe
      = if probe.status ≠ .supported then none
        else (tryParseBreadType c probe.typeId).bind fun type =>
          match specAt config probe.address with
          | some spec => if spec.type ≠ type then none else some type
          | none => some type := by
  unfold acceptedType specAt
  split
  · rfl
  · cases tryParseBreadType c probe.typeId with
    | none => rfl
    | some type =>
        cases findConfigMatchByAddress config probe.address <;> rfl

theorem acceptedType_congr {probe : ProbeRecord}
    (h : specAt config' probe.address = specAt config probe.address) :
    acceptedType c config' probe = acceptedType c config probe := by
  rw [acceptedType_specAt, acceptedType_specAt, h]

/-- A matched probe is served as the type its spec says. -/
theorem acceptedType_matched {probe : ProbeRecord} {spec : DeviceSpec}
    {type : DeviceType} (hs : specAt config probe.address = some spec)
    (h : acceptedType c config probe = some type) : type = spec.type := by
  rw [acceptedType_specAt, hs] at h
  split at h
  · cases h
  · obtain ⟨t, -, ht⟩ := Option.bind_eq_some_iff.mp h
    dsimp only at ht
    split at ht
    · cases ht
    · rename_i hne
      obtain rfl := Option.some.inj ht
      exact (not_not.mp hne).symm

theorem excluded_specAt (probe : ProbeRecord) :
    excluded c config probe
      = if probe.status ≠ .supported then probe
        else
          match tryParseBreadType c probe.typeId with
          | none => unparsable probe
          | some type =>
              match specAt config probe.address with
              | some spec => mismatched spec type probe
              | none => probe := by
  unfold excluded specAt
  split
  · rfl
  · cases tryParseBreadType c probe.typeId with
    | none => rfl
    | some type =>
        cases findConfigMatchByAddress config probe.address <;> rfl

theorem excluded_congr {probe : ProbeRecord}
    (h : specAt config' probe.address = specAt config probe.address) :
    excluded c config' probe = excluded c config probe := by
  rw [excluded_specAt, excluded_specAt, h]

/-- Of the config, a device takes its bus path only. -/
theorem buildDevice_congr (h : config'.busPath = config.busPath)
    (probe : ProbeRecord) (type : DeviceType) (expected : Bool)
    (deviceId label : String) :
    buildDevice c config' probe type source expected deviceId label
      = buildDevice c config probe type source expected deviceId label := by
  unfold buildDevice
  rw [h]

theorem matchedDevice_congr (h : config'.busPath = config.busPath)
    (spec : DeviceSpec) (type : DeviceType) (probe : ProbeRecord) :
    matchedDevice c config' source spec type probe
      = matchedDevice c config source spec type probe := by
  unfold matchedDevice
  rw [buildDevice_congr h]

theorem deviceOf_specAt (type : DeviceType) (index : Nat)
    (probe : ProbeRecord) :
    deviceOf c config source type index probe
      = match specAt config probe.address with
        | some spec => matchedDevice c config source spec type probe
        | none => extraDevice c config source type index probe := by
  unfold deviceOf specAt
  cases findConfigMatchByAddress config probe.address <;> rfl

/-- The counter reaches the devices outside the config only. -/
theorem deviceOf_matched {probe : ProbeRecord} {spec : DeviceSpec}
    (hs : specAt config probe.address = some spec) (type : DeviceType)
    (index : Nat) :
    deviceOf c config source type index probe
      = matchedDevice c config source spec type probe := by
  rw [deviceOf_specAt, hs]

theorem deviceOf_congr (hbus : config'.busPath = config.busPath)
    {probe : ProbeRecord}
    (h : specAt config' probe.address = specAt config probe.address)
    (type : DeviceType) (index : Nat) :
    deviceOf c config' source type index probe
      = deviceOf c config source type index probe := by
  rw [deviceOf_specAt, deviceOf_specAt, h]
  cases specAt config probe.address with
  | none => exact buildDevice_congr hbus ..
  | some spec => exact matchedDevice_congr hbus spec type probe

theorem rank_congr (h : ∀ address, specAt config' address
      = specAt config address)
    (probes : List ProbeRecord) (type : DeviceType) (address : Int) :
    rank c config' probes type address = rank c config probes type address := by
  unfold rank
  simp only [acceptedType_congr (h _)]

/-! ## Reordered inputs -/

theorem buildInventory_of_perm {probes probes' : List ProbeRecord}
    (hp : (probes.map (·.address)).Nodup) (hperm : probes'.Perm probes) :
    buildInventoryFromProbes c config probes' source
      = buildInventoryFromProbes c config probes source := by
  unfold buildInventoryFromProbes
  rw [sortProbes_of_perm hp hperm]

/-- The same inventory, with the missing specs told in another order. -/
structure Reordered (r r' : InventoryBuildResult) : Prop where
  supported : r'.supportedDevices = r.supportedDevices
  unsupported : r'.unsupportedProbes = r.unsupportedProbes
  missing : r'.missingExpectedIds.Perm r.missingExpectedIds
  /-- The details agree as the map they are. -/
  details : ∀ id, r'.missingExpectedDetails.lookup id
    = r.missingExpectedDetails.lookup id

/-- Ids noted once each can be noted in any order. -/
theorem lookup_noteDetail_perm {g : DeviceSpec → Option String}
    {specs specs' : List DeviceSpec} (hd : (specs.map (·.id)).Nodup)
    (hperm : specs'.Perm specs) (id : String) :
    (specs'.foldl (noteDetail g) ∅).lookup id
      = (specs.foldl (noteDetail g) ∅).lookup id := by
  have hd' : (specs'.map (·.id)).Nodup := (hperm.map _).nodup_iff.mpr hd
  ext text
  rw [lookup_noteDetail hd, lookup_noteDetail hd']
  simp only [hperm.mem_iff]

theorem buildInventory_reordered (hd : config.Distinct)
    {probes : List ProbeRecord} (hp : (probes.map (·.address)).Nodup)
    (hbus : config'.busPath = config.busPath)
    (hperm : config'.devices.Perm config.devices) :
    Reordered (buildInventoryFromProbes c config probes source)
      (buildInventoryFromProbes c config' probes source) := by
  have hd' : config'.Distinct :=
    { ids := (hperm.map _).nodup_iff.mpr hd.ids
      addresses := (hperm.map _).nodup_iff.mpr hd.addresses }
  have hat : ∀ address, specAt config' address = specAt config address := by
    intro address
    exact specAt_congr hd hd' fun spec _ => hperm.mem_iff
  have hacc : acceptedType c config' = acceptedType c config :=
    funext fun p => acceptedType_congr (hat p.address)
  have hexc : excluded c config' = excluded c config :=
    funext fun p => excluded_congr (hat p.address)
  have hdev : ∀ p type index, deviceOf c config' source type index p
      = deviceOf c config source type index p := fun p =>
    deviceOf_congr hbus (hat p.address)
  have h : BuildSpec c config probes source _ := buildInventory_spec hd hp
  have h' : BuildSpec c config' probes source _ := buildInventory_spec hd' hp
  obtain ⟨specs, hsub, hmem, hids, hdetails⟩ := h.missing
  obtain ⟨specs', hsub', hmem', hids', hdetails'⟩ := h'.missing
  -- The missing specs are the same set, and neither list repeats one.
  have hspecs : specs'.Perm specs := by
    apply (List.perm_ext_iff_of_nodup ?_ ?_).mpr
    · intro spec
      rw [hmem, hmem', Served, Served, hacc, hperm.mem_iff]
    · exact (hd'.ids.of_map _).sublist hsub'
    · exact (hd.ids.of_map _).sublist hsub
  have hun : (buildInventoryFromProbes c config' probes
        source).unsupportedProbes
      = (buildInventoryFromProbes c config probes source).unsupportedProbes := by
    rw [h.unsupported, h'.unsupported, hacc, hexc]
  refine ⟨?_, hun, ?_, ?_⟩
  · rw [h.supported, h'.supported]
    simp only [hacc, rank_congr hat, hdev]
  · rw [hids, hids']
    exact hspecs.map _
  · intro id
    rw [hdetails, hdetails', hun, noteFailure_eq]
    exact lookup_noteDetail_perm (hd.ids.sublist (hsub.map _)) hspecs id

/-! ## One device apart from the rest -/

/-- An expected device has a spec and a probe at its address. -/
theorem BuildSpec.expected_from {probes : List ProbeRecord}
    {r : InventoryBuildResult} (h : BuildSpec c config probes source r)
    (hd : config.Distinct) {d : InventoryDevice}
    (hdm : d ∈ r.supportedDevices) (hexp : d.expected = true) :
    ∃ spec ∈ config.devices, ∃ p ∈ probes, spec.address = p.address ∧
      acceptedType c config p = some spec.type ∧
      d = matchedDevice c config source spec spec.type p := by
  obtain ⟨p, hp, type, hacc, rfl⟩ := h.mem_supported.mp hdm
  rw [deviceOf_expected] at hexp
  obtain ⟨i, hm⟩ := Option.isSome_iff_exists.mp hexp
  have hat : specAt config p.address = some (config.devices.get i) := by
    rw [specAt, hm]
    rfl
  obtain ⟨hs, ha⟩ := (specAt_eq_some_iff hd).mp hat
  obtain rfl := acceptedType_matched hat hacc
  exact ⟨_, hs, p, hp, ha, hacc, deviceOf_matched hat _ _⟩

/-- A served spec has its own device at its address and no other there. -/
theorem BuildSpec.at_address {probes : List ProbeRecord}
    {r : InventoryBuildResult} (h : BuildSpec c config probes source r)
    (hd : config.Distinct) (hp : (probes.map (·.address)).Nodup)
    {spec : DeviceSpec} (hs : spec ∈ config.devices) {p : ProbeRecord}
    (hpm : p ∈ probes) (ha : spec.address = p.address)
    (hacc : acceptedType c config p = some spec.type) :
    (r.supportedDevices.filter fun d => d.address == p.address)
      = [matchedDevice c config source spec spec.type p] := by
  have hat : specAt config p.address = some spec :=
    (specAt_eq_some_iff hd).mpr ⟨hs, ha⟩
  have hmem : matchedDevice c config source spec spec.type p
      ∈ r.supportedDevices := h.mem_supported.mpr
    ⟨p, hpm, spec.type, hacc, (deviceOf_matched hat _ _).symm⟩
  have hone : ∀ d ∈ r.supportedDevices, d.address = p.address →
      d = matchedDevice c config source spec spec.type p := by
    intro d hdm hda
    obtain ⟨q, hq, type, hqacc, rfl⟩ := h.mem_supported.mp hdm
    rw [deviceOf_address] at hda
    obtain rfl : q = p := List.inj_on_of_nodup_map hp hq hpm hda
    obtain rfl := acceptedType_matched hat hqacc
    exact deviceOf_matched hat _ _
  apply filter_eq_singleton (h.nodup hp) hmem
  intro d hdm
  rw [beq_iff_eq]
  constructor
  · intro hda
    exact hone d hdm hda
  · intro heq
    rw [heq, ← deviceOf_matched hat spec.type 0, deviceOf_address]

/-- An expected device stands in every other assembly that has its spec and
its probe, whatever the rest of the config and of the probes. -/
theorem buildInventory_device_local (hd : config.Distinct)
    {probes : List ProbeRecord} (hp : (probes.map (·.address)).Nodup)
    {d : InventoryDevice}
    (hdm : d ∈ (buildInventoryFromProbes c config probes
      source).supportedDevices) (hexp : d.expected = true) :
    ∃ spec ∈ config.devices, ∃ p ∈ probes,
      spec.address = d.address ∧ p.address = d.address ∧
      ∀ (config' : ProviderConfig) (probes' : List ProbeRecord),
        config'.Distinct → (probes'.map (·.address)).Nodup →
        config'.busPath = config.busPath → spec ∈ config'.devices →
        p ∈ probes' →
        ((buildInventoryFromProbes c config' probes'
          source).supportedDevices.filter fun d' => d'.address == d.address)
            = [d] := by
  have h : BuildSpec c config probes source _ := buildInventory_spec hd hp
  obtain ⟨spec, hs, p, hpm, ha, hacc, hdev⟩ := h.expected_from hd hdm hexp
  have hat : specAt config p.address = some spec :=
    (specAt_eq_some_iff hd).mpr ⟨hs, ha⟩
  have hda : d.address = p.address := by
    rw [hdev, ← deviceOf_matched hat spec.type 0, deviceOf_address]
  refine ⟨spec, hs, p, hpm, ha.trans hda.symm, hda.symm, ?_⟩
  intro config' probes' hd' hp' hbus hs' hpm'
  have h' : BuildSpec c config' probes' source _ := buildInventory_spec hd' hp'
  have hat' : specAt config' p.address = some spec :=
    (specAt_eq_some_iff hd').mpr ⟨hs', ha⟩
  have hacc' : acceptedType c config' p = some spec.type := by
    rw [acceptedType_congr (hat'.trans hat.symm), hacc]
  rw [hda, h'.at_address hd' hp' hs' hpm' ha hacc', matchedDevice_congr hbus,
    ← hdev]

/-- Assembly forgets the order of what it is given, and a device of the config
takes nothing from another address. -/
theorem inventory_order_and_locality (c : Contracts) (config : ProviderConfig)
    (hd : config.Distinct) (probes : List ProbeRecord)
    (hp : (probes.map (·.address)).Nodup) (source : InventorySource) :
    (∀ probes' : List ProbeRecord, probes'.Perm probes →
      buildInventoryFromProbes c config probes' source
        = buildInventoryFromProbes c config probes source) ∧
    (∀ devices : List DeviceSpec, devices.Perm config.devices →
      Reordered (buildInventoryFromProbes c config probes source)
        (buildInventoryFromProbes c { config with devices } probes source)) ∧
    (∀ d ∈ (buildInventoryFromProbes c config probes source).supportedDevices,
      d.expected = true →
      ∃ spec ∈ config.devices, ∃ p ∈ probes,
        spec.address = d.address ∧ p.address = d.address ∧
        ∀ (config' : ProviderConfig) (probes' : List ProbeRecord),
          config'.Distinct → (probes'.map (·.address)).Nodup →
          config'.busPath = config.busPath → spec ∈ config'.devices →
          p ∈ probes' →
          ((buildInventoryFromProbes c config' probes'
            source).supportedDevices.filter fun d' =>
              d'.address == d.address) = [d]) := by
  refine ⟨?_, ?_, ?_⟩
  · intro probes' hperm
    exact buildInventory_of_perm hp hperm
  · intro devices hperm
    exact buildInventory_reordered hd hp rfl hperm
  · intro d hdm hexp
    exact buildInventory_device_local hd hp hdm hexp

/-- Both boards probed and configured the other way round. -/
theorem inventory_order_and_locality_bench :
    ((buildInventoryFromProbes .reference Reference.config
        (buildSeedProbes .reference Reference.config)
          .manual).supportedDevices.map (·.id) = ["heater", "pump"]) ∧
    (buildInventoryFromProbes .reference Reference.config
        (buildSeedProbes .reference Reference.config).reverse .manual
      = buildInventoryFromProbes .reference Reference.config
        (buildSeedProbes .reference Reference.config) .manual) ∧
    Reordered
      (buildInventoryFromProbes .reference Reference.config
        (buildSeedProbes .reference Reference.config) .manual)
      (buildInventoryFromProbes .reference
        { Reference.config with
          devices := [Reference.dcmtSpec, Reference.rlhtSpec] }
        (buildSeedProbes .reference Reference.config) .manual) := by
  have h := inventory_order_and_locality .reference Reference.config
    Reference.config_distinct (buildSeedProbes .reference Reference.config)
    (by decide) .manual
  refine ⟨by decide, h.1 _ (List.reverse_perm _), ?_⟩
  exact h.2.1 _ (List.Perm.swap ..)

end BreadProvider.Inventory
