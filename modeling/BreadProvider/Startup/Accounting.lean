import BreadProvider.Inventory.Assembly
import BreadProvider.Contracts.Reference
import BreadProvider.Startup

/-!
# Provider — discovery accounts for everything

Every candidate address, every configured device and every reason ends up in
exactly one place of a discovery result, whatever the probes answer and
wherever the deadline falls.
-/

namespace BreadProvider.Startup

open Interaction Inventory

variable {c : Contracts}

/-! ## A steady clock -/

/-- Sessions that answer anything, under a clock that never goes back. -/
def steadyClock : Environment ProviderInterface Int
  | .steadyNow, t, r, t' => t ≤ r ∧ t' = r
  | _, t, _, t' => t' = t

/-- The clock readings of a run. -/
def readings (tr : List (Event ProviderInterface)) : List Int :=
  tr.filterMap fun
    | ⟨.steadyNow, t⟩ => some t
    | _ => none

@[simp] theorem readings_nil : readings [] = [] := rfl

@[simp] theorem readings_append (t₁ t₂ : List (Event ProviderInterface)) :
    readings (t₁ ++ t₂) = readings t₁ ++ readings t₂ :=
  List.filterMap_append

theorem onSession_readings {α : Type} {session : Nat}
    {p : Program SessionInterface α} {t t' : Int}
    {tr : List (Event ProviderInterface)} {a : α}
    (h : (onSession session p).Runs steadyClock t tr a t') :
    readings tr = [] ∧ t' = t := by
  have hevery := onSession_every p.every_true session
  constructor
  · refine List.filterMap_eq_nil_iff.mpr fun e he => ?_
    obtain ⟨op, -, hop⟩ := hevery.runs h e he
    obtain ⟨o, r⟩ := e
    obtain rfl : o = .io session op := hop
    rfl
  · have hstep : ∀ (o : ProviderOp) (s : Int) (r : o.Ans) (s' : Int),
        (∃ op, True ∧ o = .io session op) → s = t → steadyClock o s r s' →
        s' = t := by
      rintro _ _ _ _ ⟨op, -, rfl⟩ rfl hE
      exact hE
    exact hevery.ensures_inv hstep rfl tr a t' h

/-! ## One probe -/

theorem readVersion_error {address : UInt8} {frame : RawFrame}
    {record : ProbeRecord} (h : readVersion c address frame = .error record) :
    record.address = address.toNat := by
  unfold readVersion at h
  split at h
  · cases h
    rfl
  · split at h
    · cases h
      rfl
    · split at h
      · cases h
        rfl
      · split at h
        · cases h
          rfl
        · cases h

/-- A probe is recorded under the address it was made at. -/
theorem probeDevice_address (address : UInt8) :
    (probeDevice c address).Ensures (Environment.any SessionInterface) ()
      fun _ record _ => record.address = address.toNat := by
  refine (Program.ensures_trivial _ _).bind ?_
  rintro _ ⟨status, frame⟩ _ -
  dsimp only
  split
  · exact Program.ensures_ret.mpr rfl
  · cases hv : readVersion c address frame with
    | error record => exact Program.ensures_ret.mpr (readVersion_error hv)
    | ok family =>
        obtain ⟨type, version⟩ := family
        change (probeModule c address frame.typeId type version).Ensures _ _ _
        unfold probeModule
        dsimp only
        split
        · exact Program.ensures_ret.mpr rfl
        · exact (Program.ensures_trivial _ _).bind fun _ _ _ _ =>
            Program.ensures_ret.mpr rfl

/-! ## The probe loop -/

/-- `n` of `total` turns came before the deadline, and the rest at or after
it. -/
def Turns (deadline : Option Int) (clock : List Int) (total n : Nat) : Prop :=
  match deadline with
  | none => clock = [] ∧ n = total
  | some d => clock.length = total ∧ (∀ t ∈ clock.take n, t < d) ∧
      ∀ t ∈ clock.drop n, d ≤ t

/-- What the loop leaves of `rest`, `n` of it probed. -/
structure Probed (rest : List Int) (probes : List ProbeRecord)
    (unprobed : List Int) (res : List ProbeRecord × List Int) (n : Nat) :
    Prop where
  le : n ≤ rest.length
  probes : ∃ new, res.1 = probes ++ new ∧
    new.map (·.address) = rest.take n
  unprobed : res.2 = unprobed ++ rest.drop n

/-- A 7-bit address survives the cast to the byte it is probed at. -/
def ByteAddress (address : Int) : Prop := 0 ≤ address ∧ address < 256

theorem addressByte_byte {address : Int} (h : ByteAddress address) :
    ((addressByte address).toNat : Int) = address := by
  obtain ⟨hlo, hhi⟩ := h
  rw [addressByte, UInt8.toNat_ofNat', Int.emod_eq_of_lt hlo hhi,
    Nat.mod_eq_of_lt (by omega)]
  omega

theorem probeAll_none (session : Nat) (address : Int) (rest : List Int)
    (probes : List ProbeRecord) (unprobed : List Int) :
    probeAll c session none (address :: rest) probes unprobed
      = onSession session (probeDevice c (addressByte address))
          >>= fun probe =>
            probeAll c session none rest (probes ++ [probe]) unprobed := rfl

theorem probeAll_some (session : Nat) (d address : Int) (rest : List Int)
    (probes : List ProbeRecord) (unprobed : List Int) :
    probeAll c session (some d) (address :: rest) probes unprobed
      = .call .steadyNow fun t =>
          if decide (d ≤ t) then
            probeAll c session (some d) rest probes (unprobed ++ [address])
          else onSession session (probeDevice c (addressByte address))
            >>= fun probe =>
              probeAll c session (some d) rest (probes ++ [probe]) unprobed :=
  rfl

theorem probeAll_expired {session : Nat} {d t : Int} (hd : d ≤ t)
    (rest : List Int) (probes : List ProbeRecord) (unprobed : List Int) :
    (probeAll c session (some d) rest probes unprobed).Ensures steadyClock t
      fun tr res _ => res = (probes, unprobed ++ rest) ∧
        (readings tr).length = rest.length ∧ ∀ r ∈ readings tr, d ≤ r := by
  induction rest generalizing t unprobed with
  | nil => exact Program.ensures_ret.mpr (by simp)
  | cons address rest ih =>
      rw [probeAll_some]
      refine Program.ensures_call.mpr ?_
      rintro _ t₁ ⟨hle, rfl⟩
      rw [if_pos (by simpa using le_trans hd hle)]
      refine (ih (le_trans hd hle) (unprobed ++ [address])).mono ?_
      rintro tr _ _ ⟨rfl, hlen, hall⟩
      have hread : readings (⟨.steadyNow, t₁⟩ :: tr) = t₁ :: readings tr := rfl
      rw [hread]
      refine ⟨by simp, by simp [hlen], ?_⟩
      intro r hr
      rcases List.mem_cons.mp hr with rfl | hr
      · exact le_trans hd hle
      · exact hall r hr

theorem Probed.cons {address : Int} {rest : List Int}
    {probes : List ProbeRecord} {unprobed : List Int}
    {res : List ProbeRecord × List Int} {n : Nat} {probe : ProbeRecord}
    (haddr : probe.address = address)
    (h : Probed rest (probes ++ [probe]) unprobed res n) :
    Probed (address :: rest) probes unprobed res (n + 1) where
  le := Nat.succ_le_succ h.le
  probes := by
    obtain ⟨new, hnew, hmap⟩ := h.probes
    exact ⟨probe :: new, by rw [hnew, List.append_assoc]; rfl,
      by rw [List.map_cons, hmap, haddr, List.take_succ_cons]⟩
  unprobed := h.unprobed

/-- The loop probes a prefix, and stops where the clock says. -/
theorem probeAll_probed {session : Nat} {deadline : Option Int}
    {rest : List Int} (hbytes : ∀ a ∈ rest, ByteAddress a) (t : Int)
    (probes : List ProbeRecord) (unprobed : List Int) :
    (probeAll c session deadline rest probes unprobed).Ensures steadyClock t
      fun tr res _ => ∃ n, Probed rest probes unprobed res n ∧
        Turns deadline (readings tr) rest.length n := by
  induction rest generalizing t probes unprobed with
  | nil =>
      refine Program.ensures_ret.mpr ⟨0, ⟨le_rfl, ⟨[], by simp⟩, by simp⟩, ?_⟩
      cases deadline <;> simp [Turns]
  | cons address rest ih =>
      have hbyte := hbytes address List.mem_cons_self
      have ih := ih fun a ha => hbytes a (List.mem_cons_of_mem _ ha)
      -- The turn of `address` itself, when it is probed.
      have hprobe : ∀ t₁, (onSession session
          (probeDevice c (addressByte address)) >>= fun probe =>
            probeAll c session deadline rest (probes ++ [probe])
              unprobed).Ensures steadyClock t₁ fun tr res _ =>
          ∃ n, Probed (address :: rest) probes unprobed res (n + 1) ∧
            Turns deadline (readings tr) rest.length n := by
        intro t₁ tr res t₂ hr
        obtain ⟨tr₁, probe, t₃, tr₂, hp, hrest, rfl⟩ :=
          Program.runs_bind.mp hr
        obtain ⟨hquiet, rfl⟩ := onSession_readings hp
        have haddr : probe.address = address := by
          have := (probeDevice_address (addressByte address)).ofTranslate _
            _ _ _ hp
          rw [this, addressByte_byte hbyte]
        obtain ⟨n, hn, hturns⟩ := ih _ _ _ _ _ _ hrest
        refine ⟨n, hn.cons haddr, ?_⟩
        rwa [readings_append, hquiet, List.nil_append]
      cases deadline with
      | none =>
          rw [probeAll_none]
          refine (hprobe t).mono ?_
          rintro tr res _ ⟨n, hn, hclock, hlen⟩
          exact ⟨n + 1, hn, hclock, by rw [hlen, List.length_cons]⟩
      | some d =>
          rw [probeAll_some]
          refine Program.ensures_call.mpr ?_
          rintro _ t₁ ⟨hle, rfl⟩
          have hread : ∀ tr, readings (⟨.steadyNow, t₁⟩ :: tr)
              = t₁ :: readings tr := fun _ => rfl
          by_cases hlate : d ≤ t₁
          · rw [if_pos (by simpa using hlate)]
            refine (probeAll_expired hlate rest probes
              (unprobed ++ [address])).mono ?_
            rintro tr _ _ ⟨rfl, hlen, hall⟩
            refine ⟨0, ⟨Nat.zero_le _, ⟨[], by simp⟩, by simp⟩, ?_⟩
            rw [hread]
            refine ⟨by simp [hlen], by simp, ?_⟩
            simpa using ⟨hlate, hall⟩
          · rw [if_neg (by simpa using hlate)]
            refine (hprobe t₁).mono ?_
            rintro tr res _ ⟨n, hn, hlen, hbefore, hafter⟩
            refine ⟨n + 1, hn, ?_⟩
            rw [hread]
            refine ⟨by simp [hlen], ?_, by simpa using hafter⟩
            simpa using ⟨Int.not_le.mp hlate, hbefore⟩

/-! ## Details by id -/

theorem noteUnprobed_eq (unprobed : List Int) :
    noteUnprobed unprobed = noteDetail fun spec =>
      if spec.address ∈ unprobed then some notProbedDetail else none := by
  funext details spec
  unfold noteUnprobed noteDetail
  dsimp only
  split_ifs <;> rfl

theorem failureDetail_ne (p : ProbeRecord) :
    failureDetail p ≠ notProbedDetail := by
  intro h
  have := congrArg (fun s => s.toList.head?) h
  simp [failureDetail, notProbedDetail] at this

/-! ## The books -/

/-- Where everything went: `n` of the candidates were probed. -/
structure Accounting (config : ProviderConfig) (deadline : Option Int)
    (addresses clock : List Int) (n : Nat) (r : DiscoveryResult) : Prop where
  probed : n ≤ addresses.length
  /-- The probed prefix is the devices and the exclusions, each once. -/
  placed : (r.devices.map (·.address)
    ++ r.unsupportedProbes.map (·.address)).Perm (addresses.take n)
  turns : Turns deadline clock addresses.length n
  /-- A configured spec has its device or is missing. -/
  expected : ∀ spec ∈ config.devices,
    (∃! d, d ∈ r.devices ∧ d.expected = true ∧ d.id = spec.id ∧
        d.address = spec.address ∧ d.type = spec.type) ∧
      spec.id ∉ r.missingExpectedIds ∨
    (∀ d ∈ r.devices, d.expected = true → d.id ≠ spec.id) ∧
      r.missingExpectedIds.count spec.id = 1
  missing : ∀ id ∈ r.missingExpectedIds, ∃ spec ∈ config.devices, spec.id = id
  /-- The missing whose address was a candidate have a detail. -/
  noted : ∀ id, (∃ text, r.missingExpectedDetails.lookup id = some text) ↔
    id ∈ r.missingExpectedIds ∧
      ∃ spec ∈ config.devices, spec.id = id ∧ spec.address ∈ addresses
  unprobed : ∀ spec ∈ config.devices,
    r.missingExpectedDetails.lookup spec.id = some notProbedDetail ↔
      spec.address ∈ addresses.drop n
  /-- Any other detail quotes the probe excluded at that address. -/
  quoted : ∀ spec ∈ config.devices, ∀ text ≠ notProbedDetail,
    r.missingExpectedDetails.lookup spec.id = some text →
      ∃ p ∈ r.unsupportedProbes, p.address = spec.address ∧
        text = failureDetail p
  sorted : r.devices.Pairwise fun d e => d.address < e.address

section Assemble

variable {config : ProviderConfig} {source : InventorySource}
  {probes : List ProbeRecord} {r : InventoryBuildResult}

/-- The details of an assembled result, id by id. -/
theorem assemble_details (hd : config.Distinct)
    (hp : (probes.map (·.address)).Nodup) {unprobed : List Int}
    (id text : String) :
    (assemble c config source probes unprobed).missingExpectedDetails.lookup id
        = some text ↔
      (∃ spec ∈ config.devices, spec.id = id ∧ spec.address ∈ unprobed ∧
        text = notProbedDetail) ∨
      (∃ spec ∈ config.devices, spec.id = id ∧ spec.address ∉ unprobed ∧
        ¬ Served c config probes spec.address ∧
        ∃ p, (buildInventoryFromProbes c config probes
            source).unsupportedProbes.find? (·.address == spec.address)
          = some p ∧ text = failureDetail p) := by
  have h : BuildSpec c config probes source _ := buildInventory_spec hd hp
  obtain ⟨specs, hsub, hmem, -, hdetails⟩ := h.missing
  have hspecs : (specs.map (·.id)).Nodup := hd.ids.sublist (hsub.map _)
  have hempty : ∀ id' text', (∅ : StringMap).lookup id' ≠ some text' := by
    intro id' text' h'
    rw [AList.lookup_empty] at h'
    cases h'
  rw [assemble, noteUnprobed_eq, lookup_noteDetail hd.ids, hdetails,
    noteFailure_eq, lookup_noteDetail hspecs]
  constructor
  · rintro (⟨spec, hs, hid, hg⟩ | ⟨⟨spec, hs, hid, hg⟩ | ⟨habs, -⟩, hnot⟩)
    · left
      split at hg
      · rename_i hu
        exact ⟨spec, hs, hid, hu, (Option.some.inj hg).symm⟩
      · cases hg
    · right
      obtain ⟨hsm, hserved⟩ := (hmem spec).mp hs
      obtain ⟨p, hfind, htext⟩ := Option.map_eq_some_iff.mp hg
      refine ⟨spec, hsm, hid, fun hu => ?_, hserved, p, hfind, htext.symm⟩
      have := hnot spec hsm hid
      rw [if_pos hu] at this
      cases this
    · exact absurd habs (hempty id text)
  · rintro (⟨spec, hs, hid, hu, rfl⟩ |
      ⟨spec, hs, hid, hu, hserved, p, hfind, rfl⟩)
    · exact .inl ⟨spec, hs, hid, if_pos hu⟩
    · refine .inr ⟨.inl ⟨spec, (hmem spec).mpr ⟨hs, hserved⟩, hid, ?_⟩, ?_⟩
      · rw [hfind]
        rfl
      · intro other ho hid'
        rw [List.inj_on_of_nodup_map hd.ids ho hs (hid'.trans hid.symm)]
        exact if_neg hu

/-- The books of an assembled result balance. -/
theorem assemble_accounts (hd : config.Distinct) {deadline : Option Int}
    {addresses clock unprobed : List Int} {n : Nat}
    (hnodup : addresses.Nodup)
    (hprobed : Probed addresses [] [] (probes, unprobed) n)
    (hturns : Turns deadline clock addresses.length n) :
    Accounting config deadline addresses clock n
      (assemble c config source probes unprobed) := by
  obtain ⟨hle, ⟨new, hnew, hmap⟩, hun⟩ := hprobed
  obtain rfl : probes = new := hnew
  obtain rfl : unprobed = addresses.drop n := hun
  have hp : (probes.map (·.address)).Nodup :=
    hmap ▸ hnodup.sublist (List.take_sublist n addresses)
  have h : BuildSpec c config probes source _ := buildInventory_spec hd hp
  have hplaced := h.placed
  have hdetails := @assemble_details c config source probes hd hp
    (addresses.drop n)
  have hmissing : ∀ {spec : DeviceSpec}, spec ∈ config.devices →
      (spec.id ∈ (buildInventoryFromProbes c config probes
        source).missingExpectedIds ↔
          ¬ Served c config probes spec.address) := by
    intro spec hs
    exact h.missing_iff hd hs
  -- An address left unprobed serves nothing.
  have hunserved : ∀ {address : Int}, address ∈ addresses.drop n →
      ¬ Served c config probes address := by
    rintro address hu ⟨p, hpm, -, rfl⟩
    have htake : p.address ∈ addresses.take n :=
      hmap ▸ List.mem_map_of_mem hpm
    have hsplit := List.take_append_drop n addresses ▸ hnodup
    exact (List.disjoint_of_nodup_append hsplit) htake hu
  -- A probed address that serves nothing was excluded.
  have hexcluded : ∀ {address : Int}, address ∈ addresses.take n →
      ¬ Served c config probes address →
      ∃ p, (buildInventoryFromProbes c config probes
        source).unsupportedProbes.find? (·.address == address) = some p := by
    intro address hu hserved
    have hin := hplaced.mem_iff.mpr (hmap ▸ hu)
    rcases List.mem_append.mp hin with hdev | hex
    · obtain ⟨d, hdm, rfl⟩ := List.mem_map.mp hdev
      obtain ⟨p, hpm, type, hacc, rfl⟩ := h.mem_supported.mp hdm
      exact absurd ⟨p, hpm, by simp [hacc], by simp⟩ hserved
    · obtain ⟨p, hpm, rfl⟩ := List.mem_map.mp hex
      refine Option.isSome_iff_exists.mp (List.find?_isSome.mpr ⟨p, hpm, ?_⟩)
      exact beq_self_eq_true p.address
  have hfound : ∀ {address : Int} {p : ProbeRecord},
      (buildInventoryFromProbes c config probes
        source).unsupportedProbes.find? (·.address == address) = some p →
      p ∈ (buildInventoryFromProbes c config probes
        source).unsupportedProbes ∧ p.address = address := by
    intro address p hfind
    exact ⟨List.mem_of_find?_eq_some hfind, by
      simpa using List.find?_some hfind⟩
  have htakeOf : ∀ {p : ProbeRecord}, p ∈ (buildInventoryFromProbes c config
      probes source).unsupportedProbes → p.address ∈ addresses.take n := by
    intro p hpm
    rw [← hmap]
    exact hplaced.mem_iff.mp (List.mem_append_right _
      (List.mem_map_of_mem hpm))
  constructor
  · exact hle
  · exact hmap ▸ hplaced
  · exact hturns
  · intro spec hs
    by_cases hserved : Served c config probes spec.address
    · exact .inl ⟨h.served hd hp hs hserved,
        fun hin => (hmissing hs).mp hin hserved⟩
    · refine .inr ⟨fun d hdm hexp hid => hserved (h.serves hd hs hdm hexp hid),
        ?_⟩
      exact List.count_eq_one_of_mem (h.missing_nodup hd)
        ((hmissing hs).mpr hserved)
  · intro id hid
    obtain ⟨spec, hs, hid, -⟩ := h.mem_missing.mp hid
    exact ⟨spec, hs, hid⟩
  · intro id
    constructor
    · rintro ⟨text, htext⟩
      rcases (hdetails id text).mp htext with
        ⟨spec, hs, rfl, hu, -⟩ | ⟨spec, hs, rfl, -, hserved, p, hfind, -⟩
      · exact ⟨(hmissing hs).mpr (hunserved hu), spec, hs, rfl,
          List.mem_of_mem_drop hu⟩
      · obtain ⟨hpm, hpa⟩ := hfound hfind
        exact ⟨(hmissing hs).mpr hserved, spec, hs, rfl,
          List.mem_of_mem_take (hpa ▸ htakeOf hpm)⟩
    · rintro ⟨hid, spec, hs, rfl, haddr⟩
      have hserved := (hmissing hs).mp hid
      by_cases hu : spec.address ∈ addresses.drop n
      · exact ⟨_, (hdetails _ _).mpr (.inl ⟨spec, hs, rfl, hu, rfl⟩)⟩
      · have htake : spec.address ∈ addresses.take n := by
          rw [← List.take_append_drop n addresses, List.mem_append] at haddr
          exact haddr.resolve_right hu
        obtain ⟨p, hfind⟩ := hexcluded htake hserved
        exact ⟨_, (hdetails _ _).mpr
          (.inr ⟨spec, hs, rfl, hu, hserved, p, hfind, rfl⟩)⟩
  · intro spec hs
    rw [hdetails]
    constructor
    · rintro (⟨other, ho, hid, hu, -⟩ | ⟨_, -, -, -, -, p, -, habs⟩)
      · rwa [List.inj_on_of_nodup_map hd.ids ho hs hid] at hu
      · exact absurd habs.symm (failureDetail_ne p)
    · intro hu
      exact .inl ⟨spec, hs, rfl, hu, rfl⟩
  · intro spec hs text hne htext
    rcases (hdetails _ _).mp htext with
      ⟨_, -, -, -, rfl⟩ | ⟨other, ho, hid, -, -, p, hfind, rfl⟩
    · exact absurd rfl hne
    · obtain ⟨hpm, hpa⟩ := hfound hfind
      rw [List.inj_on_of_nodup_map hd.ids ho hs hid] at hpa
      exact ⟨p, hpm, hpa, rfl⟩
  · exact h.sorted hp

end Assemble

/-! ## The discovery -/

/-- The candidates of a run: the configured list, or what the scan at its
head answered. -/
def candidatesOf (config : ProviderConfig)
    (tr : List (Event ProviderInterface)) : List Int :=
  match config.discoveryMode, tr with
  | .manual, _ => config.manualAddresses
  | .scan, ⟨.io _ (.scan _), (_, found)⟩ :: _ =>
      (found.getD []).map fun result => (result.address.toNat : Int)
  | .scan, _ => []

theorem candidates_manual {config : ProviderConfig} (session : Nat)
    (h : config.discoveryMode = .manual) :
    candidates session config = .ret (.ok config.manualAddresses) := by
  unfold candidates
  rw [h]
  rfl

theorem candidates_scan {config : ProviderConfig} (session : Nat)
    (h : config.discoveryMode = .scan) :
    candidates session config = .call (.io session (.scan {})) fun r =>
      if !r.1.ok then
        .ret (.error ("CRUMBS bus scan failed: " ++ r.1.message))
      else .ret (.ok ((r.2.getD []).map fun result =>
        (result.address.toNat : Int))) := by
  unfold candidates
  rw [h]
  rfl

theorem byteAddress_toNat (address : UInt8) :
    ByteAddress (address.toNat : Int) :=
  ⟨Int.natCast_nonneg _, by exact_mod_cast address.toNat_lt⟩

theorem ByteAddress.ofI2c {address : Int} (h : IsI2cAddress address) :
    ByteAddress address :=
  ⟨by have := h.1; omega, by have := h.2; omega⟩

/-- Candidates come without a clock reading, and fit the byte they are
probed at. -/
theorem candidates_ensures {config : ProviderConfig}
    (hmanual : ∀ a ∈ config.manualAddresses, IsI2cAddress a)
    (session : Nat) (t : Int) :
    (candidates session config).Ensures steadyClock t fun tr found _ =>
      ∀ addresses, found = .ok addresses →
        readings tr = [] ∧ (∀ a ∈ addresses, ByteAddress a) ∧
          ∀ more, candidatesOf config (tr ++ more) = addresses := by
  cases hmode : config.discoveryMode with
  | manual =>
      rw [candidates_manual session hmode]
      refine Program.ensures_ret.mpr ?_
      rintro _ ⟨⟩
      refine ⟨rfl, fun a ha => .ofI2c (hmanual a ha), fun more => ?_⟩
      simp [candidatesOf, hmode]
  | scan =>
      rw [candidates_scan session hmode]
      refine Program.ensures_call.mpr ?_
      rintro ⟨status, results⟩ _ -
      dsimp only
      split
      · exact Program.ensures_ret.mpr nofun
      · refine Program.ensures_ret.mpr ?_
        rintro _ ⟨⟩
        refine ⟨rfl, ?_, fun more => ?_⟩
        · intro a ha
          obtain ⟨result, -, rfl⟩ := List.mem_map.mp ha
          exact byteAddress_toNat _
        · simp [candidatesOf, hmode]

/-- What discovery finds, it accounts for. -/
theorem discovery_accounts {config : ProviderConfig} (hd : config.Distinct)
    (hmanual : ∀ a ∈ config.manualAddresses, IsI2cAddress a)
    {session : Nat} {deadline : Option Int} {t t' : Int}
    {tr : List (Event ProviderInterface)} {r : DiscoveryResult}
    (hrun : (runDiscovery c session config deadline).Runs steadyClock t tr
      (.ok r) t')
    (hnodup : (candidatesOf config tr).Nodup) :
    ∃ n, Accounting config deadline (candidatesOf config tr) (readings tr)
      n r := by
  obtain ⟨tr₁, found, t₁, tr₂, hfound, hrest, rfl⟩ := Program.runs_bind.mp hrun
  cases found with
  | error what =>
      obtain ⟨-, habs, -⟩ := hrest
      cases habs
  | ok addresses =>
      obtain ⟨hquiet, hbytes, hcand⟩ :=
        candidates_ensures hmanual session t _ _ _ hfound addresses rfl
      rw [hcand] at hnodup ⊢
      rw [readings_append, hquiet, List.nil_append]
      obtain ⟨tr₃, ⟨probes, unprobed⟩, t₂, tr₄, hprobe, hret, rfl⟩ :=
        Program.runs_bind.mp hrest
      obtain ⟨rfl, hr, rfl⟩ := hret
      obtain rfl := Except.ok.inj hr
      obtain ⟨n, hn, hturns⟩ := probeAll_probed hbytes t₁ [] [] _ _ _ hprobe
      rw [List.append_nil]
      exact ⟨n, assemble_accounts hd hnodup hn hturns⟩

/-- One of two candidates is probed, in vain, before time is up. -/
theorem discovery_accounts_late :
    let config : ProviderConfig :=
      { manualAddresses := [8, 9]
        devices := [{ id := "heater", address := 8 },
          { id := "fan", address := 9 }] }
    let silent : SessionStatus := .failure .readFailed "no reply"
    let tr : List (Event ProviderInterface) :=
      [⟨.steadyNow, (1 : Int)⟩, ⟨.io 0 (.queryRead 8 0), (silent, none)⟩,
        ⟨.steadyNow, (7 : Int)⟩]
    ∃ r n, Accounting config (some 5) (candidatesOf config tr) (readings tr)
      n r := by
  intro config silent tr
  have hrun : ∃ r, (runDiscovery Contracts.reference 0 config (some 5)).Runs
      steadyClock 0 tr (.ok r) 7 :=
    ⟨_, 1, 1, _, ⟨by decide, rfl⟩, rfl, (silent, none), 1, _, rfl, rfl,
      7, 7, _, ⟨by decide, rfl⟩, rfl, rfl, rfl, rfl⟩
  obtain ⟨r, hrun⟩ := hrun
  have hd : config.Distinct := ⟨by decide, by decide⟩
  have hmanual : ∀ a ∈ config.manualAddresses, IsI2cAddress a := by
    simp [config, IsI2cAddress]
  exact ⟨r, discovery_accounts hd hmanual hrun (by decide)⟩

end BreadProvider.Startup
