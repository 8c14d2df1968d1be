import BreadProvider.Inventory.Locality

/-!
# Provider — the config-seeded inventory

Mock mode builds its roster from probes the config itself suggests. Each of
them is accepted, so the roster is the config, in address order.
-/

namespace BreadProvider.Inventory

variable {c : Contracts} {config : ProviderConfig}

theorem seedProbes_addresses :
    (buildSeedProbes c config).map (·.address)
      = config.devices.map (·.address) := by
  rw [buildSeedProbes, List.map_map]
  rfl

/-- A seed is accepted as the type of the spec it was made from. -/
theorem acceptedType_seed (hd : config.Distinct) {spec : DeviceSpec}
    (hs : spec ∈ config.devices) :
    acceptedType c config (seedProbe c spec) = some spec.type := by
  have hat : specAt config (seedProbe c spec).address = some spec :=
    (specAt_eq_some_iff hd).mpr ⟨hs, rfl⟩
  rw [acceptedType_specAt, hat]
  simp [seedProbe]

theorem served_seed (hd : config.Distinct) {spec : DeviceSpec}
    (hs : spec ∈ config.devices) :
    Served c config (buildSeedProbes c config) spec.address := by
  refine ⟨seedProbe c spec, List.mem_map_of_mem hs, ?_, rfl⟩
  rw [acceptedType_seed hd hs]
  rfl

/-- The seeded roster, device by device. -/
theorem mem_buildSeedInventory (hd : config.Distinct) {d : InventoryDevice} :
    d ∈ buildSeedInventory c config ↔ ∃ spec ∈ config.devices,
      d = matchedDevice c config .configSeeded spec spec.type
        (seedProbe c spec) := by
  have hp : ((buildSeedProbes c config).map (·.address)).Nodup :=
    seedProbes_addresses ▸ hd.addresses
  have h : BuildSpec c config _ .configSeeded _ := buildInventory_spec hd hp
  have hdevice : ∀ {spec : DeviceSpec} {type : DeviceType} {index : Nat},
      spec ∈ config.devices →
      deviceOf c config .configSeeded type index (seedProbe c spec)
        = matchedDevice c config .configSeeded spec type (seedProbe c spec) :=
    fun hs => deviceOf_matched ((specAt_eq_some_iff hd).mpr ⟨hs, rfl⟩) _ _
  unfold buildSeedInventory
  rw [h.mem_supported]
  constructor
  · intro ⟨p, hp, type, hacc, hdev⟩
    obtain ⟨spec, hs, rfl⟩ := List.mem_map.mp hp
    rw [acceptedType_seed hd hs] at hacc
    obtain rfl := Option.some.inj hacc
    exact ⟨spec, hs, hdev.trans (hdevice hs)⟩
  · intro ⟨spec, hs, hdev⟩
    exact ⟨seedProbe c spec, List.mem_map_of_mem hs, spec.type,
      acceptedType_seed hd hs, hdev.trans (hdevice hs).symm⟩

theorem matchedDevice_id (source : InventorySource) (spec : DeviceSpec)
    (type : DeviceType) (probe : ProbeRecord) :
    (matchedDevice c config source spec type probe).id = spec.id := by
  simp [matchedDevice]

theorem matchedDevice_expected (source : InventorySource) (spec : DeviceSpec)
    (type : DeviceType) (probe : ProbeRecord) :
    (matchedDevice c config source spec type probe).expected = true := by
  simp [matchedDevice, buildDevice]

/-- A seeded device is where its spec says, of its type, with the flags of the
seeded profile. -/
theorem matchedDevice_seed (source : InventorySource) (spec : DeviceSpec) :
    (matchedDevice c config source spec spec.type (seedProbe c spec)).address
        = spec.address ∧
      (matchedDevice c config source spec spec.type (seedProbe c spec)).type
        = spec.type ∧
      (matchedDevice c config source spec spec.type
        (seedProbe c spec)).capabilityProfile.flags
          = (makeSeededCapabilityProfile c spec.type).flags := by
  refine ⟨?_, ?_, ?_⟩
  · simp [matchedDevice, buildDevice, seedProbe]
  · simp [matchedDevice, buildDevice]
  · have hprofile : (matchedDevice c config source spec spec.type
        (seedProbe c spec)).capabilityProfile
          = normalizeCapabilityProfile c spec.type
            (normalizeCapabilityProfile c spec.type
              (makeSeededCapabilityProfile c spec.type)) := by
      unfold matchedDevice applySpec
      dsimp only
      split_ifs <;> rfl
    rw [hprofile]
    have hfill : ∀ p : CapabilityProfile, p.source = .seeded →
        p.flags = (makeSeededCapabilityProfile c spec.type).flags →
        (normalizeCapabilityProfile c spec.type p).flags
          = (makeSeededCapabilityProfile c spec.type).flags := by
      intro p hsource hflags
      unfold normalizeCapabilityProfile
      rw [hsource]
      show (if p.flags = 0 then _ else p.flags) = _
      rw [hflags]
      exact ite_self _
    have hseeded : (makeSeededCapabilityProfile c spec.type).source
        = .seeded := by
      cases spec.type <;> rfl
    have hnormal : (normalizeCapabilityProfile c spec.type
        (makeSeededCapabilityProfile c spec.type)).source = .seeded := by
      unfold normalizeCapabilityProfile
      rw [hseeded]
      exact hseeded
    exact hfill _ hnormal (hfill _ hseeded rfl)

/-- The seeded roster has the config's ids, each once. -/
theorem buildSeedInventory_ids (hd : config.Distinct) :
    ((buildSeedInventory c config).map (·.id)).Perm
      (config.devices.map (·.id)) := by
  have hp : ((buildSeedProbes c config).map (·.address)).Nodup :=
    seedProbes_addresses ▸ hd.addresses
  have h : BuildSpec c config _ .configSeeded _ := buildInventory_spec hd hp
  have hnodup : ((buildSeedInventory c config).map (·.id)).Nodup := by
    refine List.Nodup.map_on ?_ (h.nodup hp)
    intro d hdm e hem hid
    obtain ⟨spec, hs, rfl⟩ := (mem_buildSeedInventory hd).mp hdm
    obtain ⟨spec', hs', rfl⟩ := (mem_buildSeedInventory hd).mp hem
    rw [matchedDevice_id, matchedDevice_id] at hid
    rw [List.inj_on_of_nodup_map hd.ids hs hs' hid]
  apply (List.perm_ext_iff_of_nodup hnodup hd.ids).mpr
  intro id
  rw [List.mem_map, List.mem_map]
  constructor
  · intro ⟨d, hdm, hid⟩
    obtain ⟨spec, hs, rfl⟩ := (mem_buildSeedInventory hd).mp hdm
    exact ⟨spec, hs, (matchedDevice_id ..).symm.trans hid⟩
  · intro ⟨spec, hs, hid⟩
    exact ⟨_, (mem_buildSeedInventory hd).mpr ⟨spec, hs, rfl⟩,
      (matchedDevice_id ..).trans hid⟩

/-- Every device of the seeded roster is the config's. -/
theorem buildSeedInventory_expected (hd : config.Distinct) :
    ∀ d ∈ buildSeedInventory c config, d.expected = true := by
  intro d hdm
  obtain ⟨spec, -, rfl⟩ := (mem_buildSeedInventory hd).mp hdm
  exact matchedDevice_expected ..

end BreadProvider.Inventory
