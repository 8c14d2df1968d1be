import Mathlib.Data.List.AList
import Mathlib.Data.List.Induction
import BreadProvider.Inventory.Model

/-!
# Provider — inventory assembly, closed form

`build_inventory_from_probes` walks the sorted probes with two counters and
a match table. Here is what the walk leaves, probe by probe and without the
walk: which probes become devices, which device each becomes, which specs
stay unmatched. The counters disappear into `rank`.
-/

namespace BreadProvider.Inventory

variable (c : Contracts) (config : ProviderConfig) (source : InventorySource)

/-! ## What one probe becomes -/

/-- The family a probe is served as, if it becomes a device at all. -/
def acceptedType (probe : ProbeRecord) : Option DeviceType :=
  if probe.status ≠ .supported then none
  else
    match tryParseBreadType c probe.typeId with
    | none => none
    | some type =>
        match findConfigMatchByAddress config probe.address with
        | some i => if (config.devices.get i).type ≠ type then none else some type
        | none => some type

/-- The record a probe that becomes no device is excluded as. -/
def excluded (probe : ProbeRecord) : ProbeRecord :=
  if probe.status ≠ .supported then probe
  else
    match tryParseBreadType c probe.typeId with
    | none => unparsable probe
    | some type =>
        match findConfigMatchByAddress config probe.address with
        | some i => mismatched (config.devices.get i) type probe
        | none => probe

/-- The device an accepted probe becomes, `index` being its type's counter. -/
def deviceOf (type : DeviceType) (index : Nat) (probe : ProbeRecord) :
    InventoryDevice :=
  match findConfigMatchByAddress config probe.address with
  | some i => matchedDevice c config source (config.devices.get i) type probe
  | none => extraDevice c config source type index probe

/-- The accepted probes of a type below an address. -/
def rank (probes : List ProbeRecord) (type : DeviceType) (address : Int) :
    Nat :=
  probes.countP fun p =>
    decide (acceptedType c config p = some type) && decide (p.address < address)

@[simp] theorem excluded_address (probe : ProbeRecord) :
    (excluded c config probe).address = probe.address := by
  unfold excluded
  split
  · rfl
  · split
    · rfl
    · split <;> rfl

theorem excluded_status (probe : ProbeRecord)
    (h : acceptedType c config probe = none) :
    (excluded c config probe).status ≠ .supported := by
  unfold acceptedType at h
  unfold excluded
  split at h
  · rename_i hs
    rw [if_pos hs]
    exact hs
  · rename_i hs
    rw [if_neg hs]
    split at h
    · rename_i ht
      simp [unparsable]
    · rename_i type ht
      split at h
      · rename_i i hi
        simp [mismatched]
      · cases h

@[simp] theorem buildDevice_id (probe : ProbeRecord) (type : DeviceType)
    (expected : Bool) (deviceId label : String) :
    (buildDevice c config probe type source expected deviceId label).id
      = deviceId := rfl

@[simp] theorem deviceOf_address (type : DeviceType) (index : Nat)
    (probe : ProbeRecord) :
    (deviceOf c config source type index probe).address = probe.address := by
  unfold deviceOf
  split
  · simp [matchedDevice, buildDevice]
  · rfl

@[simp] theorem deviceOf_type (type : DeviceType) (index : Nat)
    (probe : ProbeRecord) :
    (deviceOf c config source type index probe).type = type := by
  unfold deviceOf
  split
  · simp [matchedDevice, buildDevice]
  · rfl

theorem deviceOf_expected (type : DeviceType) (index : Nat)
    (probe : ProbeRecord) :
    (deviceOf c config source type index probe).expected
      = (findConfigMatchByAddress config probe.address).isSome := by
  unfold deviceOf
  split
  · rename_i i hi
    simp [matchedDevice, buildDevice, hi]
  · rename_i hi
    simp [extraDevice, buildDevice, hi]

theorem deviceOf_id (type : DeviceType) (index : Nat) (probe : ProbeRecord) :
    (deviceOf c config source type index probe).id
      = match findConfigMatchByAddress config probe.address with
        | some i => (config.devices.get i).id
        | none => generatedId type index := by
  unfold deviceOf
  split <;> simp [matchedDevice, extraDevice]

/-! ## One iteration -/

/-- The match table after an accepted probe at `address`. -/
def BuildState.markMatch (st : BuildState config.devices.length)
    (address : Int) : BuildState config.devices.length :=
  match findConfigMatchByAddress config address with
  | some i => st.setMatched i
  | none => st

theorem placeProbe_accepted {st : BuildState config.devices.length}
    {probe : ProbeRecord} {type : DeviceType}
    (h : acceptedType c config probe = some type) :
    placeProbe c config source st probe
      = ((st.markMatch config probe.address).bump type).accept
          (deviceOf c config source type (st.counter type) probe) := by
  unfold acceptedType at h
  unfold placeProbe BuildState.markMatch deviceOf
  split at h
  · cases h
  · rename_i hs
    rw [if_neg hs]
    cases ht : tryParseBreadType c probe.typeId with
    | none => simp [ht] at h
    | some t =>
        simp only [ht] at h
        cases hi : findConfigMatchByAddress config probe.address with
        | none =>
            simp only [hi, Option.some.injEq] at h
            subst h
            rfl
        | some i =>
            simp only [hi] at h
            split at h
            · cases h
            · rename_i hty
              obtain rfl := Option.some.inj h
              simp only [if_neg hty]

theorem placeProbe_excluded {st : BuildState config.devices.length}
    {probe : ProbeRecord} (h : acceptedType c config probe = none) :
    placeProbe c config source st probe
      = st.exclude (excluded c config probe) := by
  unfold acceptedType at h
  unfold placeProbe excluded
  split at h
  · rename_i hs
    rw [if_pos hs, if_pos hs]
  · rename_i hs
    rw [if_neg hs, if_neg hs]
    cases ht : tryParseBreadType c probe.typeId with
    | none => rfl
    | some t =>
        simp only [ht] at h
        cases hi : findConfigMatchByAddress config probe.address with
        | none => simp [hi] at h
        | some i =>
            simp only [hi] at h
            split at h
            · rename_i hty
              simp only [if_pos hty]
            · cases h

/-! ## The whole walk -/

/-- What the walk over `probes` has left in `st`. -/
structure Assembled (probes : List ProbeRecord)
    (st : BuildState config.devices.length) : Prop where
  supported : st.supported = probes.filterMap fun p =>
    (acceptedType c config p).map fun type =>
      deviceOf c config source type (rank c config probes type p.address) p
  unsupported : st.unsupported =
    (probes.filter fun p => (acceptedType c config p).isNone).map
      (excluded c config)
  matched : ∀ i, st.matched i = true ↔
    ∃ p ∈ probes, (acceptedType c config p).isSome ∧
      findConfigMatchByAddress config p.address = some i
  counter : ∀ type, st.counter type =
    probes.countP fun p => decide (acceptedType c config p = some type)

variable {c config source}

@[simp] theorem markMatch_counter (st : BuildState config.devices.length)
    (address : Int) (type : DeviceType) :
    (st.markMatch config address).counter type = st.counter type := by
  unfold BuildState.markMatch
  split <;> cases type <;> rfl

@[simp] theorem markMatch_supported (st : BuildState config.devices.length)
    (address : Int) :
    (st.markMatch config address).supported = st.supported := by
  unfold BuildState.markMatch
  split <;> rfl

@[simp] theorem markMatch_unsupported (st : BuildState config.devices.length)
    (address : Int) :
    (st.markMatch config address).unsupported = st.unsupported := by
  unfold BuildState.markMatch
  split <;> rfl

theorem markMatch_matched (st : BuildState config.devices.length)
    (address : Int) (i : Fin config.devices.length) :
    (st.markMatch config address).matched i = true
      ↔ st.matched i = true ∨
        findConfigMatchByAddress config address = some i := by
  unfold BuildState.markMatch
  split
  · rename_i j hj
    simp only [BuildState.setMatched, Bool.or_eq_true, decide_eq_true_eq, hj,
      Option.some.injEq]
    rw [or_comm, @eq_comm _ i j]
  · rename_i hn
    simp [hn]

theorem bump_counter {n : Nat} (st : BuildState n) (type t : DeviceType) :
    (st.bump type).counter t
      = st.counter t + if type = t then 1 else 0 := by
  cases type <;> cases t <;> rfl

@[simp] theorem bump_supported {n : Nat} (st : BuildState n)
    (type : DeviceType) : (st.bump type).supported = st.supported := by
  cases type <;> rfl

@[simp] theorem bump_unsupported {n : Nat} (st : BuildState n)
    (type : DeviceType) : (st.bump type).unsupported = st.unsupported := by
  cases type <;> rfl

@[simp] theorem bump_matched {n : Nat} (st : BuildState n)
    (type : DeviceType) : (st.bump type).matched = st.matched := by
  cases type <;> rfl

/-- A probe above every other leaves the ranks of the others as they were. -/
theorem rank_append_of_le {probes : List ProbeRecord} {probe : ProbeRecord}
    {type : DeviceType} {address : Int} (h : address ≤ probe.address) :
    rank c config (probes ++ [probe]) type address
      = rank c config probes type address := by
  unfold rank
  rw [List.countP_append, List.countP_singleton]
  simp only [Bool.and_eq_true, decide_eq_true_eq, ite_eq_right_iff,
    Nat.add_eq_left]
  intro hlt
  omega

/-- The rank above every probe is the type's counter. -/
theorem rank_top {probes : List ProbeRecord} {type : DeviceType}
    {address : Int} (h : ∀ p ∈ probes, p.address < address) :
    rank c config probes type address
      = probes.countP fun p => decide (acceptedType c config p = some type) := by
  unfold rank
  apply List.countP_congr
  intro p hp
  simp [h p hp]

theorem Assembled.accept {probes : List ProbeRecord} {probe : ProbeRecord}
    {st : BuildState config.devices.length} {type : DeviceType}
    (h : Assembled c config source probes st)
    (hlt : ∀ p ∈ probes, p.address < probe.address)
    (hacc : acceptedType c config probe = some type) :
    Assembled c config source (probes ++ [probe])
      (((st.markMatch config probe.address).bump type).accept
        (deviceOf c config source type (st.counter type) probe)) where
  supported := by
    have hold : ∀ p ∈ probes, ∀ t,
        rank c config (probes ++ [probe]) t p.address
          = rank c config probes t p.address := fun p hp t =>
      rank_append_of_le (hlt p hp).le
    have hnew : rank c config (probes ++ [probe]) type probe.address
        = st.counter type := by
      rw [rank_append_of_le le_rfl, rank_top hlt, h.counter]
    simp only [BuildState.accept, bump_supported, markMatch_supported,
      List.filterMap_append, List.filterMap_cons, hacc, Option.map_some,
      List.filterMap_nil, hnew, h.supported]
    congr 1
    apply List.filterMap_congr
    intro p hp
    simp only [hold p hp]
  unsupported := by
    simp [BuildState.accept, h.unsupported, hacc]
  matched := by
    intro i
    simp only [BuildState.accept, bump_matched, markMatch_matched, h.matched,
      List.mem_append, List.mem_singleton, or_and_right, exists_or,
      exists_eq_left, hacc, Option.isSome_some, true_and]
  counter := by
    intro t
    have hc : (((st.markMatch config probe.address).bump type).accept
        (deviceOf c config source type (st.counter type) probe)).counter t
          = ((st.markMatch config probe.address).bump type).counter t := by
      cases t <;> rfl
    rw [hc, bump_counter, markMatch_counter, h.counter, List.countP_append,
      List.countP_singleton, hacc]
    simp

theorem Assembled.exclude {probes : List ProbeRecord} {probe : ProbeRecord}
    {st : BuildState config.devices.length}
    (h : Assembled c config source probes st)
    (hlt : ∀ p ∈ probes, p.address < probe.address)
    (hexc : acceptedType c config probe = none) :
    Assembled c config source (probes ++ [probe])
      (st.exclude (excluded c config probe)) where
  supported := by
    simp only [BuildState.exclude, List.filterMap_append, List.filterMap_cons,
      hexc, Option.map_none, List.filterMap_nil, List.append_nil, h.supported]
    apply List.filterMap_congr
    intro p hp
    simp only [rank_append_of_le (hlt p hp).le]
  unsupported := by
    simp [BuildState.exclude, h.unsupported, hexc]
  matched := by
    intro i
    simp only [BuildState.exclude, h.matched, List.mem_append,
      List.mem_singleton, or_and_right, exists_or, exists_eq_left, hexc,
      Option.isSome_none, Bool.false_eq_true, false_and, or_false]
  counter := by
    intro t
    have hc : (st.exclude (excluded c config probe)).counter t
        = st.counter t := by
      cases t <;> rfl
    rw [hc, h.counter, List.countP_append, List.countP_singleton, hexc]
    simp

theorem Assembled.nil : Assembled c config source [] {} where
  supported := rfl
  unsupported := rfl
  matched := by simp
  counter := by
    intro t
    cases t <;> rfl

/-- Walking probes in strictly ascending address order. -/
theorem placeProbes_assembled {sorted : List ProbeRecord}
    (h : sorted.Pairwise fun p q => p.address < q.address) :
    Assembled c config source sorted
      (placeProbes c config source sorted) := by
  -- The walk appends, so the induction is on the last probe.
  induction sorted using List.reverseRecOn with
  | nil => exact Assembled.nil
  | append_singleton probes probe ih =>
      obtain ⟨hprobes, -, hlt⟩ := List.pairwise_append.mp h
      have hlt : ∀ p ∈ probes, p.address < probe.address := fun p hp =>
        hlt p hp probe (List.mem_singleton.mpr rfl)
      have hst := ih hprobes
      have hstep : placeProbes c config source (probes ++ [probe])
          = placeProbe c config source (placeProbes c config source probes)
              probe := by
        rw [placeProbes, List.foldl_append]
        rfl
      rw [hstep]
      cases hacc : acceptedType c config probe with
      | none =>
          rw [placeProbe_excluded c config source hacc]
          exact hst.exclude hlt hacc
      | some type =>
          rw [placeProbe_accepted c config source hacc]
          exact hst.accept hlt hacc

/-! ## Sorting -/

instance : Std.Total ProbeRecord.before where
  total a b := by
    unfold ProbeRecord.before
    rcases Int.lt_trichotomy a.address b.address with h | h | h
    · exact .inl (.inl h)
    · rcases UInt8.le_total a.typeId b.typeId with ht | ht
      · exact .inl (.inr ⟨h, ht⟩)
      · exact .inr (.inr ⟨h.symm, ht⟩)
    · exact .inr (.inl h)

instance : IsTrans ProbeRecord ProbeRecord.before where
  trans a b d hab hbd := by
    unfold ProbeRecord.before at *
    have : a.typeId ≤ b.typeId → b.typeId ≤ d.typeId →
        a.typeId ≤ d.typeId := UInt8.le_trans
    rcases hab with hab | ⟨hab, hab'⟩ <;> rcases hbd with hbd | ⟨hbd, hbd'⟩
    · exact .inl (by omega)
    · exact .inl (by omega)
    · exact .inl (by omega)
    · exact .inr ⟨by omega, this hab' hbd'⟩

theorem sortProbes_perm (probes : List ProbeRecord) :
    (sortProbes probes).Perm probes :=
  List.perm_insertionSort _ _

/-- With one probe an address, sorting leaves the addresses ascending. -/
theorem sortProbes_ascending {probes : List ProbeRecord}
    (h : (probes.map (·.address)).Nodup) :
    (sortProbes probes).Pairwise fun p q => p.address < q.address := by
  have hnodup : ((sortProbes probes).map (·.address)).Nodup :=
    ((sortProbes_perm probes).map _).nodup_iff.mpr h
  have hsorted : (sortProbes probes).Pairwise ProbeRecord.before :=
    List.pairwise_insertionSort _ _
  have hne : (sortProbes probes).Pairwise fun p q => p.address ≠ q.address :=
    List.pairwise_map.mp hnodup
  exact (hsorted.and hne).imp fun ⟨hle, hne⟩ => by
    rcases hle with hlt | ⟨heq, -⟩
    · exact hlt
    · exact absurd heq hne

@[simp] theorem mem_sortProbes {probes : List ProbeRecord}
    {probe : ProbeRecord} : probe ∈ sortProbes probes ↔ probe ∈ probes :=
  (sortProbes_perm probes).mem_iff

theorem rank_perm {probes probes' : List ProbeRecord}
    (h : probes.Perm probes') (type : DeviceType) (address : Int) :
    rank c config probes type address = rank c config probes' type address :=
  h.countP_eq _

/-! ## Matching by address -/

theorem findConfigMatch_none_iff {address : Int} :
    findConfigMatchByAddress config address = none
      ↔ ∀ spec ∈ config.devices, spec.address ≠ address := by
  simp [findConfigMatchByAddress, List.findFinIdx?_eq_none_iff]

theorem findConfigMatch_address {address : Int}
    {i : Fin config.devices.length}
    (h : findConfigMatchByAddress config address = some i) :
    (config.devices.get i).address = address := by
  have h := (List.findFinIdx?_eq_some_iff.mp h).1
  simpa using h

/-- With one spec an address, the first match is the only one. -/
theorem findConfigMatch_iff (hd : config.Distinct) {address : Int}
    {i : Fin config.devices.length} :
    findConfigMatchByAddress config address = some i
      ↔ (config.devices.get i).address = address := by
  constructor
  · exact findConfigMatch_address
  · intro h
    cases hm : findConfigMatchByAddress config address with
    | none =>
        exact absurd h (findConfigMatch_none_iff.mp hm _ (List.getElem_mem _))
    | some j =>
        have hj := findConfigMatch_address hm
        have hinj := List.inj_on_of_nodup_map hd.addresses
          (List.getElem_mem j.isLt) (List.getElem_mem i.isLt)
          (hj.trans h.symm)
        have hnd : config.devices.Nodup := hd.addresses.of_map _
        exact congrArg some (Fin.ext (hnd.getElem_inj_iff.mp hinj))

/-! ## Details by id -/

/-- Note something of a spec, or nothing. -/
def noteDetail (g : DeviceSpec → Option String) (details : StringMap)
    (spec : DeviceSpec) : StringMap :=
  match g spec with
  | some text => details.insert spec.id text
  | none => details

theorem noteFailure_eq (unsupported : List ProbeRecord) :
    noteFailure unsupported = noteDetail fun spec =>
      (unsupported.find? fun probe => probe.address == spec.address).map
        failureDetail := by
  funext details spec
  unfold noteFailure noteDetail
  dsimp only
  cases unsupported.find? fun probe => probe.address == spec.address <;> rfl

/-- What was noted last under an id, where each id is noted once. -/
theorem lookup_noteDetail {g : DeviceSpec → Option String}
    {specs : List DeviceSpec} (hd : (specs.map (·.id)).Nodup)
    (details : StringMap) {id text : String} :
    (specs.foldl (noteDetail g) details).lookup id = some text ↔
      (∃ spec ∈ specs, spec.id = id ∧ g spec = some text) ∨
      details.lookup id = some text ∧
        ∀ spec ∈ specs, spec.id = id → g spec = none := by
  induction specs generalizing details with
  | nil => simp
  | cons spec rest ih =>
      obtain ⟨hnotin, hrest⟩ := List.nodup_cons.mp hd
      have hne : ∀ other ∈ rest, other.id ≠ spec.id := fun other ho h =>
        hnotin (List.mem_map.mpr ⟨other, ho, h⟩)
      rw [List.foldl_cons, ih hrest]
      by_cases hid : spec.id = id
      · subst hid
        have hout : ¬ ∃ other ∈ rest, other.id = spec.id ∧ g other = some text :=
          fun ⟨other, ho, h, _⟩ => hne other ho h
        have hquiet : ∀ other ∈ rest, other.id = spec.id → g other = none :=
          fun other ho h => absurd h (hne other ho)
        cases hg : g spec with
        | none => simp [noteDetail, hg, hout]
        | some text' => simpa [noteDetail, hg, hout] using fun _ => hquiet
      · have hkeep : (noteDetail g details spec).lookup id
            = details.lookup id := by
          unfold noteDetail
          split
          · exact AList.lookup_insert_ne (Ne.symm hid)
          · rfl
        simp [hkeep, hid]

/-! ## The result -/

/-- Some probe at this address became a device. -/
def Served (c : Contracts) (config : ProviderConfig)
    (probes : List ProbeRecord) (address : Int) : Prop :=
  ∃ p ∈ probes, (acceptedType c config p).isSome ∧ p.address = address

/-- The inventory in closed form: devices and exclusions probe by probe in
address order, and the specs no device serves, in config order. -/
structure BuildSpec (c : Contracts) (config : ProviderConfig)
    (probes : List ProbeRecord) (source : InventorySource)
    (r : InventoryBuildResult) : Prop where
  supported : r.supportedDevices = (sortProbes probes).filterMap fun p =>
    (acceptedType c config p).map fun type =>
      deviceOf c config source type (rank c config probes type p.address) p
  unsupported : r.unsupportedProbes =
    ((sortProbes probes).filter fun p => (acceptedType c config p).isNone).map
      (excluded c config)
  missing : ∃ specs : List DeviceSpec,
    specs.Sublist config.devices ∧
    (∀ spec, spec ∈ specs ↔
      spec ∈ config.devices ∧ ¬ Served c config probes spec.address) ∧
    r.missingExpectedIds = specs.map (·.id) ∧
    r.missingExpectedDetails =
      specs.foldl (noteFailure r.unsupportedProbes) ∅

theorem missingSpecs_sublist
    (matched : Fin config.devices.length → Bool) :
    (missingSpecs config matched).Sublist config.devices := by
  have h := (List.filter_sublist (p := fun i => !matched i)
    (l := List.finRange config.devices.length)).map
      fun i => config.devices.get i
  simpa [missingSpecs] using h

theorem buildInventory_spec (hd : config.Distinct)
    {probes : List ProbeRecord} (hp : (probes.map (·.address)).Nodup) :
    BuildSpec c config probes source
      (buildInventoryFromProbes c config probes source) where
  supported := by
    have h := (@placeProbes_assembled c config source _
      (sortProbes_ascending hp)).supported
    simpa only [buildInventoryFromProbes, rank_perm (sortProbes_perm probes)]
      using h
  unsupported :=
    (placeProbes_assembled (sortProbes_ascending hp)).unsupported
  missing := by
    refine ⟨missingSpecs config _, missingSpecs_sublist _, ?_, rfl, rfl⟩
    intro spec
    have hm := (@placeProbes_assembled c config source _
      (sortProbes_ascending hp)).matched
    have hserved : ∀ i : Fin config.devices.length,
        (placeProbes c config source (sortProbes probes)).matched i = true
          ↔ Served c config probes (config.devices.get i).address := by
      intro i
      rw [hm i]
      simp only [mem_sortProbes, findConfigMatch_iff hd, Served]
      constructor
      · rintro ⟨p, hp, hacc, ha⟩
        exact ⟨p, hp, hacc, ha.symm⟩
      · rintro ⟨p, hp, hacc, ha⟩
        exact ⟨p, hp, hacc, ha.symm⟩
    constructor
    · intro hmem
      obtain ⟨i, hi, rfl⟩ := List.mem_map.mp hmem
      have hi := (List.mem_filter.mp hi).2
      refine ⟨List.getElem_mem _, fun hs => ?_⟩
      simp [(hserved i).mpr hs] at hi
    · rintro ⟨hspec, hs⟩
      obtain ⟨i, hi, rfl⟩ := List.getElem_of_mem hspec
      refine List.mem_map.mpr ⟨⟨i, hi⟩, List.mem_filter.mpr
        ⟨List.mem_finRange _, ?_⟩, rfl⟩
      have hn := mt (hserved ⟨i, hi⟩).mp hs
      simpa using hn

theorem BuildSpec.mem_supported {probes : List ProbeRecord}
    {r : InventoryBuildResult} (h : BuildSpec c config probes source r)
    {d : InventoryDevice} :
    d ∈ r.supportedDevices ↔ ∃ p ∈ probes, ∃ type,
      acceptedType c config p = some type ∧
      d = deviceOf c config source type
        (rank c config probes type p.address) p := by
  rw [h.supported]
  simp only [List.mem_filterMap, mem_sortProbes, Option.map_eq_some_iff]
  constructor
  · rintro ⟨p, hp, type, hacc, rfl⟩
    exact ⟨p, hp, type, hacc, rfl⟩
  · rintro ⟨p, hp, type, hacc, rfl⟩
    exact ⟨p, hp, type, hacc, rfl⟩

theorem BuildSpec.mem_missing {probes : List ProbeRecord}
    {r : InventoryBuildResult} (h : BuildSpec c config probes source r)
    {id : String} :
    id ∈ r.missingExpectedIds ↔ ∃ spec ∈ config.devices, spec.id = id ∧
      ¬ Served c config probes spec.address := by
  obtain ⟨specs, -, hmem, hids, -⟩ := h.missing
  rw [hids, List.mem_map]
  constructor
  · rintro ⟨spec, hs, rfl⟩
    exact ⟨spec, ((hmem spec).mp hs).1, rfl, ((hmem spec).mp hs).2⟩
  · rintro ⟨spec, hs, rfl, hn⟩
    exact ⟨spec, (hmem spec).mpr ⟨hs, hn⟩, rfl⟩

section Accounts

variable {probes : List ProbeRecord} {r : InventoryBuildResult}

/-- A list split by what becomes of its members keeps its addresses. -/
theorem split_addresses {δ : Type} (l : List ProbeRecord)
    (f : ProbeRecord → Option δ) (address : δ → Int)
    (h : ∀ p d, f p = some d → address d = p.address) :
    ((l.filterMap f).map address
      ++ (l.filter fun p => (f p).isNone).map (·.address)).Perm
        (l.map (·.address)) := by
  induction l with
  | nil => exact .nil
  | cons p rest ih =>
      cases hf : f p with
      | none =>
          rw [List.filterMap_cons_none hf, List.filter_cons_of_pos (by simp [hf]),
            List.map_cons, List.map_cons]
          exact List.perm_middle.trans (ih.cons _)
      | some d =>
          rw [List.filterMap_cons_some hf, List.filter_cons_of_neg (by simp [hf]),
            List.map_cons, List.map_cons, h p d hf, List.cons_append]
          exact ih.cons _

theorem BuildSpec.placed (h : BuildSpec c config probes source r) :
    (r.supportedDevices.map (·.address)
      ++ r.unsupportedProbes.map (·.address)).Perm
        (probes.map (·.address)) := by
  have hsplit := split_addresses (sortProbes probes)
    (fun p => (acceptedType c config p).map fun type =>
      deviceOf c config source type (rank c config probes type p.address) p)
    (·.address) (by
      intro p d hd
      obtain ⟨type, -, rfl⟩ := Option.map_eq_some_iff.mp hd
      simp)
  rw [h.supported, h.unsupported, List.map_map]
  simp only [Option.isNone_map] at hsplit
  have hmap : (fun p : ProbeRecord => p.address) ∘ excluded c config
      = (·.address) := funext fun p => excluded_address c config p
  rw [hmap]
  exact hsplit.trans ((sortProbes_perm probes).map _)

theorem BuildSpec.sorted (h : BuildSpec c config probes source r)
    (hp : (probes.map (·.address)).Nodup) :
    r.supportedDevices.Pairwise fun d e => d.address < e.address := by
  rw [h.supported]
  refine (sortProbes_ascending hp).filterMap _ ?_
  intro p q hlt d hd e he
  obtain ⟨_, -, rfl⟩ := Option.map_eq_some_iff.mp hd
  obtain ⟨_, -, rfl⟩ := Option.map_eq_some_iff.mp he
  simpa using hlt

/-- A served spec has one device, which carries what it says. -/
theorem BuildSpec.served (h : BuildSpec c config probes source r)
    (hd : config.Distinct) (hp : (probes.map (·.address)).Nodup)
    {spec : DeviceSpec} (hs : spec ∈ config.devices)
    (hserved : Served c config probes spec.address) :
    ∃! d, d ∈ r.supportedDevices ∧ d.expected = true ∧ d.id = spec.id ∧
      d.address = spec.address ∧ d.type = spec.type := by
  obtain ⟨p, hpm, hacc, haddr⟩ := hserved
  obtain ⟨type, htype⟩ := Option.isSome_iff_exists.mp hacc
  obtain ⟨i, hi, rfl⟩ := List.getElem_of_mem hs
  have hm : findConfigMatchByAddress config p.address = some ⟨i, hi⟩ :=
    (findConfigMatch_iff hd).mpr haddr.symm
  have hmatch : type = config.devices[i].type := by
    unfold acceptedType at htype
    split at htype
    · cases htype
    · split at htype
      · cases htype
      · rw [hm] at htype
        dsimp only at htype
        split at htype
        · cases htype
        · rename_i hne
          cases htype
          exact (not_not.mp hne).symm
  refine ⟨deviceOf c config source type
    (rank c config probes type p.address) p, ⟨h.mem_supported.mpr
      ⟨p, hpm, type, htype, rfl⟩, ?_, ?_, ?_, ?_⟩, ?_⟩
  · rw [deviceOf_expected, hm]
    rfl
  · rw [deviceOf_id, hm]
    rfl
  · rw [deviceOf_address, haddr]
  · rw [deviceOf_type, hmatch]
  · rintro d ⟨hdm, -, -, hda, -⟩
    obtain ⟨q, hq, tq, htq, rfl⟩ := h.mem_supported.mp hdm
    have hpq : q = p := List.inj_on_of_nodup_map hp hq hpm (by
      rw [deviceOf_address] at hda
      rw [hda, haddr])
    subst hpq
    rw [htype] at htq
    cases htq
    rfl

/-- An expected device with the id of a spec serves that spec. -/
theorem BuildSpec.serves (h : BuildSpec c config probes source r)
    (hd : config.Distinct) {spec : DeviceSpec} (hs : spec ∈ config.devices)
    {d : InventoryDevice} (hdm : d ∈ r.supportedDevices)
    (hexp : d.expected = true) (hid : d.id = spec.id) :
    Served c config probes spec.address := by
  obtain ⟨p, hp, type, hacc, rfl⟩ := h.mem_supported.mp hdm
  rw [deviceOf_expected] at hexp
  obtain ⟨i, hm⟩ := Option.isSome_iff_exists.mp hexp
  rw [deviceOf_id, hm] at hid
  have hspec : config.devices.get i = spec :=
    List.inj_on_of_nodup_map hd.ids (List.getElem_mem _) hs hid
  refine ⟨p, hp, by simp [hacc], ?_⟩
  rw [← hspec, findConfigMatch_address hm]

theorem BuildSpec.nodup (h : BuildSpec c config probes source r)
    (hp : (probes.map (·.address)).Nodup) : r.supportedDevices.Nodup :=
  (h.sorted hp).imp fun hlt heq => absurd (heq ▸ hlt) (lt_irrefl _)

/-- One device an address. -/
theorem BuildSpec.address_inj (h : BuildSpec c config probes source r)
    (hp : (probes.map (·.address)).Nodup) {d e : InventoryDevice}
    (hd : d ∈ r.supportedDevices) (he : e ∈ r.supportedDevices)
    (ha : d.address = e.address) : d = e := by
  have hnodup : (r.supportedDevices.map (·.address)).Nodup :=
    List.pairwise_map.mpr ((h.sorted hp).imp fun hlt => ne_of_lt hlt)
  exact List.inj_on_of_nodup_map hnodup hd he ha

/-- An expected device stands at the address of the spec it is named after. -/
theorem BuildSpec.expected_address (h : BuildSpec c config probes source r)
    (hd : config.Distinct) {spec : DeviceSpec} (hs : spec ∈ config.devices)
    {d : InventoryDevice} (hdm : d ∈ r.supportedDevices)
    (hexp : d.expected = true) (hid : d.id = spec.id) :
    d.address = spec.address := by
  obtain ⟨p, hp, type, hacc, rfl⟩ := h.mem_supported.mp hdm
  rw [deviceOf_expected] at hexp
  obtain ⟨i, hm⟩ := Option.isSome_iff_exists.mp hexp
  rw [deviceOf_id, hm] at hid
  have hspec : config.devices.get i = spec :=
    List.inj_on_of_nodup_map hd.ids (List.getElem_mem _) hs hid
  rw [deviceOf_address, ← hspec, findConfigMatch_address hm]

/-- The only member with a property is all a filter keeps. -/
theorem filter_eq_singleton {α : Type} {l : List α} {a : α} {p : α → Bool}
    (hnodup : l.Nodup) (ha : a ∈ l) (h : ∀ b ∈ l, p b = true ↔ b = a) :
    l.filter p = [a] := by
  apply List.perm_singleton.mp
  apply (List.perm_ext_iff_of_nodup (hnodup.filter p)
    (List.nodup_singleton a)).mpr
  intro b
  rw [List.mem_filter, List.mem_singleton]
  constructor
  · intro ⟨hb, hpb⟩
    exact (h b hb).mp hpb
  · intro hb
    subst hb
    exact ⟨ha, (h b ha).mpr rfl⟩

theorem BuildSpec.missing_iff (h : BuildSpec c config probes source r)
    (hd : config.Distinct) {spec : DeviceSpec} (hs : spec ∈ config.devices) :
    spec.id ∈ r.missingExpectedIds
      ↔ ¬ Served c config probes spec.address := by
  rw [h.mem_missing]
  constructor
  · intro ⟨other, ho, hid, hserved⟩
    rwa [List.inj_on_of_nodup_map hd.ids ho hs hid] at hserved
  · intro hserved
    exact ⟨spec, hs, rfl, hserved⟩

theorem BuildSpec.missing_nodup (h : BuildSpec c config probes source r)
    (hd : config.Distinct) : r.missingExpectedIds.Nodup := by
  obtain ⟨specs, hsub, -, hids, -⟩ := h.missing
  rw [hids]
  exact hd.ids.sublist (hsub.map _)

/-- A configured id is found once, as an expected device or as missing. -/
theorem BuildSpec.accounted (h : BuildSpec c config probes source r)
    (hd : config.Distinct) (hp : (probes.map (·.address)).Nodup)
    {spec : DeviceSpec} (hs : spec ∈ config.devices) :
    (r.supportedDevices.countP fun d => d.expected && d.id == spec.id)
      + r.missingExpectedIds.count spec.id = 1 := by
  by_cases hserved : Served c config probes spec.address
  · obtain ⟨d, ⟨hdm, hexp, hid, haddr, -⟩, -⟩ := h.served hd hp hs hserved
    have hone : ∀ e ∈ r.supportedDevices,
        (e.expected && e.id == spec.id) = true ↔ e = d := by
      intro e he
      rw [Bool.and_eq_true, beq_iff_eq]
      constructor
      · intro ⟨hexp', hid'⟩
        have haddr' := h.expected_address hd hs he hexp' hid'
        exact h.address_inj hp he hdm (haddr'.trans haddr.symm)
      · intro heq
        subst heq
        exact ⟨hexp, hid⟩
    have hcount : r.missingExpectedIds.count spec.id = 0 :=
      List.count_eq_zero.mpr fun hm => (h.missing_iff hd hs).mp hm hserved
    rw [List.countP_eq_length_filter,
      filter_eq_singleton (h.nodup hp) hdm hone, hcount]
    rfl
  · have hnone : ∀ e ∈ r.supportedDevices,
        ¬ (e.expected && e.id == spec.id) = true := by
      intro e he hq
      rw [Bool.and_eq_true, beq_iff_eq] at hq
      exact hserved (h.serves hd hs he hq.1 hq.2)
    rw [List.countP_eq_zero.mpr hnone, List.count_eq_one_of_mem
      (h.missing_nodup hd) ((h.missing_iff hd hs).mpr hserved)]

end Accounts

end BreadProvider.Inventory
