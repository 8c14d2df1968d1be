import BreadProvider.Contracts.Reference
import BreadProvider.Inventory.Assembly

/-!
# Provider — device ids

Where the ids of an inventory come from and when they are distinct. A
configured id names the device at its spec's address; any other device is
named by its family and its rank among that family's devices in address
order. Nothing keeps the two kinds apart: a configured id may be spelled
like a generated one.
-/

namespace BreadProvider.Inventory

variable {c : Contracts} {config : ProviderConfig} {source : InventorySource}
variable {probes : List ProbeRecord} {r : InventoryBuildResult}

/-! ## Generated ids -/

theorem generatedId_index_inj {type : DeviceType} {m n : Nat}
    (h : generatedId type m = generatedId type n) : m = n := by
  have hs : toString m = toString n := (String.append_right_inj _).mp h
  have hd : Nat.toDigits 10 m = Nat.toDigits 10 n := by
    rw [← Nat.toList_repr, ← Nat.toList_repr]
    exact congrArg String.toList hs
  rw [← @Nat.ofDigitChars_ten_toDigits m, hd, Nat.ofDigitChars_ten_toDigits]

theorem generatedId_toList_head (type : DeviceType) (n : Nat) :
    (generatedId type n).toList.head?
      = some (match type with | .rlht => 'r' | .dcmt => 'd') := by
  cases type <;> simp [generatedId, typePrefix]

theorem generatedId_inj {type type' : DeviceType} {m n : Nat}
    (h : generatedId type m = generatedId type' n) : type = type' ∧ m = n := by
  have hhead := congrArg (fun s => s.toList.head?) h
  simp only [generatedId_toList_head, Option.some.injEq] at hhead
  cases type <;> cases type' <;> first
    | exact ⟨rfl, generatedId_index_inj h⟩
    | simp at hhead

/-- A device after another of its family ranks above it. -/
theorem rank_lt {p q : ProbeRecord} {type : DeviceType} (hp : p ∈ probes)
    (hacc : acceptedType c config p = some type)
    (hlt : p.address < q.address) :
    rank c config probes type p.address
      < rank c config probes type q.address := by
  obtain ⟨before, after, rfl⟩ := List.append_of_mem hp
  unfold rank
  simp only [List.countP_append, List.countP_cons, hacc]
  have hmono : ∀ l : List ProbeRecord,
      l.countP (fun x => decide (acceptedType c config x = some type)
        && decide (x.address < p.address))
      ≤ l.countP (fun x => decide (acceptedType c config x = some type)
        && decide (x.address < q.address)) := by
    intro l
    apply List.countP_mono_left
    intro x _ hx
    simp only [Bool.and_eq_true, decide_eq_true_eq] at hx ⊢
    exact ⟨hx.1, by omega⟩
  have h₁ := hmono before
  have h₂ := hmono after
  simp only [hlt, decide_true, Bool.and_self, lt_irrefl, decide_false,
    Bool.and_false, Bool.false_eq_true, if_true, if_false]
  omega

/-! ## When the ids are distinct -/

/-- No configured id is spelled like the id generated for a device the
config does not list. -/
def GeneratedIdsFree (c : Contracts) (config : ProviderConfig)
    (probes : List ProbeRecord) : Prop :=
  ∀ p ∈ probes, ∀ type, acceptedType c config p = some type →
    findConfigMatchByAddress config p.address = none →
    ∀ spec ∈ config.devices,
      spec.id ≠ generatedId type (rank c config probes type p.address)

/-- Every id names one device: no two devices share one, no device has the
id of a missing one, and a lookup answers the device the id was given to. -/
def IdsUnique (r : InventoryBuildResult) : Prop :=
  (r.supportedDevices.map (·.id)).Nodup ∧
  (∀ d ∈ r.supportedDevices, d.id ∉ r.missingExpectedIds) ∧
  ∀ d ∈ r.supportedDevices, findDevice r.supportedDevices d.id = some d

theorem findDevice_of_nodup {devices : List InventoryDevice}
    (h : (devices.map (·.id)).Nodup) {d : InventoryDevice}
    (hd : d ∈ devices) : findDevice devices d.id = some d := by
  unfold findDevice
  cases hf : devices.find? fun device => device.id == d.id with
  | none =>
      have := List.find?_eq_none.mp hf d hd
      simp at this
  | some e =>
      have he : e.id = d.id := by simpa using List.find?_some hf
      rw [List.inj_on_of_nodup_map h (List.mem_of_find?_eq_some hf) hd he]

theorem spec_eq_of_id (hd : config.Distinct) {s t : DeviceSpec}
    (hs : s ∈ config.devices) (ht : t ∈ config.devices) (h : s.id = t.id) :
    s = t :=
  List.inj_on_of_nodup_map hd.ids hs ht h

/-- Two devices at ascending addresses have different ids. -/
theorem deviceOf_id_ne (hd : config.Distinct)
    (hfree : GeneratedIdsFree c config probes) {p q : ProbeRecord}
    {tp tq : DeviceType} (hp : p ∈ probes) (hq : q ∈ probes)
    (hap : acceptedType c config p = some tp)
    (haq : acceptedType c config q = some tq)
    (hlt : p.address < q.address) :
    (deviceOf c config source tp (rank c config probes tp p.address) p).id
      ≠ (deviceOf c config source tq
          (rank c config probes tq q.address) q).id := by
  rw [deviceOf_id, deviceOf_id]
  cases hmp : findConfigMatchByAddress config p.address with
  | some i =>
      cases hmq : findConfigMatchByAddress config q.address with
      | some j =>
          intro h
          have hij := spec_eq_of_id hd (List.getElem_mem i.isLt)
            (List.getElem_mem j.isLt) h
          have hi := findConfigMatch_address hmp
          have hj := findConfigMatch_address hmq
          have : (config.devices.get i).address = (config.devices.get j).address :=
            congrArg DeviceSpec.address hij
          omega
      | none => exact hfree q hq tq haq hmq _ (List.getElem_mem i.isLt)
  | none =>
      cases hmq : findConfigMatchByAddress config q.address with
      | some j => exact (hfree p hp tp hap hmp _ (List.getElem_mem j.isLt)).symm
      | none =>
          intro h
          obtain ⟨rfl, hr⟩ := generatedId_inj h
          have := rank_lt hp hap hlt
          omega

theorem BuildSpec.ids_nodup (h : BuildSpec c config probes source r)
    (hd : config.Distinct) (hp : (probes.map (·.address)).Nodup)
    (hfree : GeneratedIdsFree c config probes) :
    (r.supportedDevices.map (·.id)).Nodup := by
  rw [h.supported]
  refine List.pairwise_map.mpr (List.pairwise_filterMap.mpr ?_)
  refine (sortProbes_ascending hp).imp_of_mem ?_
  intro p q hpm hqm hlt d hdp e heq
  obtain ⟨tp, hap, rfl⟩ := Option.map_eq_some_iff.mp hdp
  obtain ⟨tq, haq, rfl⟩ := Option.map_eq_some_iff.mp heq
  exact deviceOf_id_ne hd hfree (mem_sortProbes.mp hpm)
    (mem_sortProbes.mp hqm) hap haq hlt

theorem BuildSpec.ids_not_missing (h : BuildSpec c config probes source r)
    (hd : config.Distinct) (hfree : GeneratedIdsFree c config probes) :
    ∀ d ∈ r.supportedDevices, d.id ∉ r.missingExpectedIds := by
  intro d hdm hmiss
  obtain ⟨p, hp, type, hacc, rfl⟩ := h.mem_supported.mp hdm
  obtain ⟨spec, hs, hid, hn⟩ := h.mem_missing.mp hmiss
  rw [deviceOf_id] at hid
  cases hm : findConfigMatchByAddress config p.address with
  | none =>
      rw [hm] at hid
      exact hfree p hp type hacc hm spec hs hid
  | some i =>
      rw [hm] at hid
      obtain rfl := spec_eq_of_id hd hs (List.getElem_mem i.isLt) hid
      exact hn ⟨p, hp, by simp [hacc], (findConfigMatch_address hm).symm⟩

/-- A configured id spelled like a generated one is always taken twice: its
own spec is either served, by another device, or missing. -/
theorem BuildSpec.free_of_unique (h : BuildSpec c config probes source r)
    (hd : config.Distinct) (hu : IdsUnique r) :
    GeneratedIdsFree c config probes := by
  intro p hp type hacc hm spec hs hid
  have hextra : deviceOf c config source type
      (rank c config probes type p.address) p ∈ r.supportedDevices :=
    h.mem_supported.mpr ⟨p, hp, type, hacc, rfl⟩
  have hextraId : (deviceOf c config source type
      (rank c config probes type p.address) p).id = spec.id := by
    rw [deviceOf_id, hm, hid]
  by_cases hserved : Served c config probes spec.address
  · obtain ⟨q, hq, hqa, haddr⟩ := hserved
    obtain ⟨tq, hqa⟩ := Option.isSome_iff_exists.mp hqa
    obtain ⟨i, hi, rfl⟩ := List.getElem_of_mem hs
    have hmq : findConfigMatchByAddress config q.address = some ⟨i, hi⟩ :=
      (findConfigMatch_iff hd).mpr haddr.symm
    have howner : deviceOf c config source tq
        (rank c config probes tq q.address) q ∈ r.supportedDevices :=
      h.mem_supported.mpr ⟨q, hq, tq, hqa, rfl⟩
    have hsame := List.inj_on_of_nodup_map hu.1 howner hextra (by
      rw [hextraId, deviceOf_id, hmq]
      rfl)
    have hexp := congrArg InventoryDevice.expected hsame
    simp [deviceOf_expected, hmq, hm] at hexp
  · exact hu.2.1 _ hextra (h.mem_missing.mpr
      ⟨spec, hs, hextraId.symm, hserved⟩)

/-- The ids of an inventory are unique exactly when no configured id is
spelled like one the numbering gives out. -/
theorem inventory_ids_unique_iff (c : Contracts) (config : ProviderConfig)
    (probes : List ProbeRecord) (source : InventorySource)
    (hd : config.Distinct) (hp : (probes.map (·.address)).Nodup) :
    IdsUnique (buildInventoryFromProbes c config probes source)
      ↔ GeneratedIdsFree c config probes := by
  have h : BuildSpec c config probes source _ := buildInventory_spec hd hp
  constructor
  · exact h.free_of_unique hd
  · intro hfree
    have hnodup := h.ids_nodup hd hp hfree
    exact ⟨hnodup, h.ids_not_missing hd hfree, fun d hdm =>
      findDevice_of_nodup hnodup hdm⟩

/-! ## A config that names its heater `rlht0` -/

def clashConfig : ProviderConfig :=
  { busPath := "/dev/i2c-1"
    devices := [{ id := "rlht0", type := .rlht, address := 0x0A }] }

def clashProbe (address : Int) : ProbeRecord :=
  { address, typeId := 0x01, status := .supported, detail := "probed" }

def clashProbes : List ProbeRecord := [clashProbe 0x08, clashProbe 0x0A]

theorem clashConfig_distinct : clashConfig.Distinct where
  ids := by decide
  addresses := by decide

/-- A second heater at a lower address takes the configured id. -/
theorem inventory_ids_clash :
    clashConfig.Distinct ∧ (clashProbes.map (·.address)).Nodup ∧
    ¬ IdsUnique (buildInventoryFromProbes .reference clashConfig clashProbes
        .discovered) := by
  refine ⟨clashConfig_distinct, by decide, fun h => ?_⟩
  have hnodup := h.1
  revert hnodup
  decide

theorem inventory_ids_unique_iff_clash :
    clashConfig.Distinct ∧ (clashProbes.map (·.address)).Nodup ∧
    (IdsUnique (buildInventoryFromProbes .reference clashConfig clashProbes
        .discovered)
      ↔ GeneratedIdsFree .reference clashConfig clashProbes) :=
  ⟨clashConfig_distinct, by decide,
    inventory_ids_unique_iff .reference clashConfig clashProbes .discovered
      clashConfig_distinct (by decide)⟩

end BreadProvider.Inventory
