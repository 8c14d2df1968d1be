import Mathlib
import BreadProvider.Config.Loaded
import BreadProvider.Contracts.Reference

/-!
# Provider — configs as documents

Every config that loading can return has a document it loads from. Such a
document may carry stray `encoders` keys on its RLHT rows: they change
nothing.
-/

namespace BreadProvider

open ConfigSchema Yaml

/-! ## The document of a config -/

section Write

variable {r : Resolver} (spelling : Spelling r)

/-- An entry of a map. -/
def entry (key : String) (node : Yaml) : Yaml × Yaml :=
  (.scalar key false, node)

def writeProvider (config : ProviderConfig) : List (Yaml × Yaml) :=
  [entry "name" (spelling.node .string config.providerName),
    entry "outputs_on_startup"
      (spelling.node .string config.outputsOnStartup.toString)]

def writeMaxBusHz : Option Nat → List (Yaml × Yaml)
  | none => []
  | some hz => [entry "max_bus_hz" (spelling.node .int64 (hz : Int))]

def writeHardware (config : ProviderConfig) : List (Yaml × Yaml) :=
  [entry "bus_path" (spelling.node .string config.busPath),
    entry "query_delay_us" (spelling.node .int64 config.queryDelayUs),
    entry "timeout_ms" (spelling.node .int64 config.timeoutMs),
    entry "retry_count" (spelling.node .int64 config.retryCount)]
    ++ writeMaxBusHz spelling config.maxBusHz

def writeAddresses : List Int → List (Yaml × Yaml)
  | [] => []
  | addresses =>
      [entry "addresses"
        (.sequence (addresses.map (spelling.node .i2cAddress)))]

def writeDiscovery (config : ProviderConfig) : List (Yaml × Yaml) :=
  entry "mode" (spelling.node .string config.discoveryMode.toString)
    :: writeAddresses spelling config.manualAddresses

def writeEncoders (spec : DeviceSpec) : List (Yaml × Yaml) :=
  match spec.type with
  | .rlht => []
  | .dcmt => [entry "encoders" (spelling.node .bool spec.encoders)]

def writeDevice (spec : DeviceSpec) : List (Yaml × Yaml) :=
  [entry "id" (spelling.node .string spec.id),
    entry "type" (spelling.node .string spec.type.toString),
    entry "label" (spelling.node .string spec.label),
    entry "address" (spelling.node .i2cAddress spec.address),
    entry "command_watchdog_ms"
      (spelling.node .int64 spec.commandWatchdogMs)]
    ++ writeEncoders spelling spec

def writeSections (config : ProviderConfig) (rows : List Yaml) : Yaml :=
  .map
    [entry "provider" (.map (writeProvider spelling config)),
      entry "hardware" (.map (writeHardware spelling config)),
      entry "discovery" (.map (writeDiscovery spelling config)),
      entry "devices" (.sequence rows)]

/-- The row of a device, or that row with an `encoders` put in somewhere if
it is an RLHT's. -/
inductive WritesRow (spec : DeviceSpec) : Yaml → Prop where
  | plain : WritesRow spec (.map (writeDevice spelling spec))
  | stray {before after : List (Yaml × Yaml)} {e : Yaml × Yaml}
      (hrow : writeDevice spelling spec = before ++ after)
      (htype : spec.type = .rlht) (hkey : e.1.isKey "encoders" = true) :
      WritesRow spec (.map (before ++ e :: after))

/-- A document that says `config`. -/
inductive Writes (config : ProviderConfig) : Yaml → Prop where
  | sections {rows : List Yaml}
      (hrows : List.Forall₂ (WritesRow spelling) config.devices rows) :
      Writes config (writeSections spelling config rows)

end Write

/-! ## Stray keys -/

section Stray

variable {r : Resolver} {spelling : Spelling r}

theorem writeDevice_type (spec : DeviceSpec) :
    lookup (writeDevice spelling spec) "type"
      = some (spelling.node .string spec.type.toString) := by
  simp [writeDevice, entry]

theorem writeDevice_encoders (spec : DeviceSpec) :
    lookup (writeDevice spelling spec) "encoders"
      = match spec.type with
        | .rlht => none
        | .dcmt => some (spelling.node .bool spec.encoders) := by
  cases htype : spec.type <;> simp [writeDevice, writeEncoders, entry, htype]

/-- What is dropped is what was put in. -/
theorem WritesRow.dropped {spec : DeviceSpec} {row : Yaml}
    (h : WritesRow spelling spec row) :
    dropEncoders row = .map (writeDevice spelling spec) := by
  obtain ⟨quoted, htext⟩ := spelling.text spec.type.toString
  cases h with
  | plain =>
      simp only [dropEncoders, writeDevice_type, writeDevice_encoders, htext]
      cases spec.type with
      | rlht => rfl
      | dcmt => exact if_pos (by decide)
  | @stray before after e hrow htype hkey =>
      have hbefore : lookup before "encoders" = none := by
        have hnone := @writeDevice_encoders r spelling spec
        rw [htype, hrow] at hnone
        unfold lookup at hnone ⊢
        rw [List.find?_append] at hnone
        cases hfind : before.find? fun e => e.1.isKey "encoders" with
        | none => rfl
        | some found =>
            rw [hfind] at hnone
            cases hnone
      have htypeAt : lookup (before ++ e :: after) "type"
          = lookup (before ++ after) "type" := by
        have hne : "encoders" ≠ "type" := by decide
        have hremoved := lookup_remove_ne hne (before ++ e :: after)
        rw [remove_inserted hkey hbefore] at hremoved
        exact hremoved.symm
      rw [← hrow, writeDevice_type, htype] at htypeAt
      rw [htype] at htext
      rw [dropEncoders, lookup_inserted hkey hbefore, htypeAt, htext]
      dsimp only
      rw [if_neg (by simp [DeviceType.toString]),
        remove_inserted hkey hbefore, hrow]

theorem Writes.dropped {config : ProviderConfig} {root : Yaml}
    (h : Writes spelling config root) :
    dropRlhtEncoders root = writeSections spelling config
      (config.devices.map fun spec => .map (writeDevice spelling spec)) := by
  obtain ⟨hrows⟩ := h
  have hdropped : ∀ {specs : List DeviceSpec} {rows : List Yaml},
      List.Forall₂ (WritesRow spelling) specs rows →
      rows.map dropEncoders
        = specs.map fun spec => .map (writeDevice spelling spec) := by
    intro specs rows hrows
    induction hrows with
    | nil => rfl
    | cons hrow _ ih => rw [List.map_cons, List.map_cons, hrow.dropped, ih]
  simp [dropRlhtEncoders, writeSections, entry, adjust, dropFromRows,
    hdropped hrows]

end Stray

/-! ## The schema accepts it -/

section Accepted

variable {sdk : ConfigSdk} {spelling : Spelling sdk.toResolver}

theorem provider_accepted (hsdk : sdk.Lawful) {config : ProviderConfig}
    (h : config.Loadable) :
    ProviderSchema.provider.accepts sdk.toResolver
      (.map (writeProvider spelling config)) = true := by
  refine Object.accepts_iff.mpr ⟨_, rfl, ?_, ?_, by simp⟩
  · simp [writeProvider, entry, Member.key, ProviderSchema.name,
      ProviderSchema.outputsOnStartup]
  · simp only [List.forall_mem_cons]
    refine ⟨?_, ?_, List.forall_mem_nil _⟩
    · have hname := (hsdk.identifier _).mpr h.name
      refine Member.field_accepted hsdk.toLawful rfl
        (spelling.reads .string config.providerName trivial) ?_
      simp [Kind.admits, ProviderSchema.name, hname]
    · refine Member.field_accepted hsdk.toLawful rfl
        (spelling.reads .string config.outputsOnStartup.toString trivial)
        ((Kind.admits_values (by simp)).mpr ?_)
      cases config.outputsOnStartup <;> simp [OutputsOnStartup.toString]

theorem hardware_accepted (hsdk : sdk.Lawful) {config : ProviderConfig}
    (h : config.Loadable) :
    ProviderSchema.hardware.accepts sdk.toResolver
      (.map (writeHardware spelling config)) = true := by
  have hint : ∀ {key : String} {min max n : Int} {required unique : Bool}
      {default : Option Int},
      lookup (writeHardware spelling config) key
        = some (spelling.node .int64 n) → min ≤ n ∧ n ≤ max →
      -2 ^ 63 ≤ min → max < 2 ^ 63 →
      (Member.field { key, kind := .integer (some min) (some max), required
                      unique, default }).accepts sdk.toResolver
        (writeHardware spelling config) = true := by
    intro key min max n required unique default hnode hrange hmin hmax
    have hspelled : -2 ^ 63 ≤ n ∧ n < 2 ^ 63 := by omega
    exact Member.field_accepted hsdk.toLawful hnode
      (spelling.reads .int64 n hspelled)
      (Kind.admits_integer.mpr hrange)
  refine Object.accepts_iff.mpr ⟨_, rfl, ?_, ?_, by simp⟩
  · cases hclock : config.maxBusHz <;>
      simp [writeHardware, writeMaxBusHz, hclock, entry, Member.key,
        ProviderSchema.busPath, ProviderSchema.queryDelayUs,
        ProviderSchema.timeoutMs, ProviderSchema.retryCount,
        ProviderSchema.maxBusHz]
  · simp only [List.forall_mem_cons]
    refine ⟨?_, ?_, ?_, ?_, ?_, List.forall_mem_nil _⟩
    · refine Member.field_accepted hsdk.toLawful rfl
        (spelling.reads .string config.busPath trivial) ?_
      simp [Kind.admits, ProviderSchema.busPath, h.busPath]
    · exact hint rfl h.queryDelay (by decide) (by decide)
    · exact hint rfl h.timeout (by decide) (by decide)
    · exact hint rfl h.retryCount (by decide) (by decide)
    · cases hclock : config.maxBusHz with
      | none =>
          exact Member.field_omitted (by
            simp [writeHardware, hclock, writeMaxBusHz, entry,
              ProviderSchema.maxBusHz]) rfl
      | some hz =>
          have hrange := h.clock hz hclock
          refine hint (n := hz) ?_ (by omega) (by decide) (by decide)
          simp [writeHardware, hclock, writeMaxBusHz, entry]

theorem addresses_read {addresses : List Int}
    (h : ∀ address ∈ addresses, IsI2cAddress address) :
    (addresses.map (spelling.node .i2cAddress)).filterMap
      (fun node => sdk.read .i2cAddress (some node)) = addresses := by
  induction addresses with
  | nil => rfl
  | cons address rest ih =>
      obtain ⟨haddress, hrest⟩ := List.forall_mem_cons.mp h
      have hread : sdk.read .i2cAddress
          (some (spelling.node .i2cAddress address)) = some address :=
        spelling.reads .i2cAddress address haddress
      rw [List.map_cons, List.filterMap_cons, hread, ih hrest]

theorem discovery_accepted (hsdk : sdk.Lawful) {config : ProviderConfig}
    (h : config.Loadable) :
    ProviderSchema.discovery.accepts sdk.toResolver
      (.map (writeDiscovery spelling config)) = true := by
  have hmode : sdk.read .string
      (lookup (writeDiscovery spelling config) "mode")
        = some config.discoveryMode.toString :=
    spelling.reads .string config.discoveryMode.toString trivial
  have haddresses : lookup (writeDiscovery spelling config) "addresses"
      = match config.manualAddresses with
        | [] => none
        | addresses =>
            some (.sequence (addresses.map (spelling.node .i2cAddress))) := by
    cases hlist : config.manualAddresses <;>
      simp [writeDiscovery, writeAddresses, hlist, entry]
  refine Object.accepts_iff.mpr ⟨_, rfl, ?_, ?_, ?_⟩
  · cases hlist : config.manualAddresses <;>
      simp [writeDiscovery, writeAddresses, hlist, entry, Member.key,
        ProviderSchema.mode]
  · simp only [List.forall_mem_cons]
    refine ⟨?_, ?_, List.forall_mem_nil _⟩
    · refine Member.field_accepted hsdk.toLawful rfl
        (spelling.reads .string config.discoveryMode.toString trivial)
        ((Kind.admits_values (by simp)).mpr ?_)
      cases config.discoveryMode <;> simp [DiscoveryMode.toString]
    · cases hlist : config.manualAddresses with
      | nil =>
          rw [hlist] at haddresses
          rw [Member.accepts, sdk.present_of_lookup_none haddresses]
          rfl
      | cons first rest =>
          rw [hlist] at haddresses
          refine Member.ofScalars_accepted haddresses (by simp) ?_ ?_
          · intro node hnode
            obtain ⟨address, hmem, rfl⟩ := List.mem_map.mp hnode
            have hrange := h.manual address (by rw [hlist]; exact hmem)
            exact Kind.accepts_iff.mpr
              ⟨address, spelling.reads .i2cAddress address hrange, rfl⟩
          · have hread := @addresses_read sdk spelling (first :: rest)
              fun address hmem => h.manual address (by rw [hlist]; exact hmem)
            have hnodup := h.manualDistinct
            rw [hlist] at hnodup
            exact (congrArg List.Nodup hread).mpr hnodup
  · simp only [List.forall_mem_cons]
    refine ⟨When.holds_of hmode ?_, When.holds_of hmode ?_,
      List.forall_mem_nil _⟩
    · intro hmanual
      have hmanual : config.discoveryMode = .manual := by
        cases hcase : config.discoveryMode with
        | manual => rfl
        | scan =>
            rw [hcase] at hmanual
            simp [DiscoveryMode.toString] at hmanual
      refine ⟨?_, by simp⟩
      intro key hkey
      obtain rfl : key = "addresses" := by simpa using hkey
      cases hlist : config.manualAddresses with
      | nil => exact absurd hlist (h.listed.mp hmanual)
      | cons first rest =>
          rw [hlist] at haddresses
          exact ⟨_, sdk.present_of_lookup haddresses (by simp)⟩
    · intro hscan
      have hnot : config.discoveryMode ≠ .manual := by
        intro hcase
        rw [hcase] at hscan
        simp [DiscoveryMode.toString] at hscan
      have hlist : config.manualAddresses = [] := by
        by_contra hne
        exact hnot (h.listed.mpr hne)
      refine ⟨by simp, ?_⟩
      intro key hkey
      obtain rfl : key = "addresses" := by simpa using hkey
      rw [hlist] at haddresses
      exact sdk.present_of_lookup_none haddresses

theorem device_accepted (hsdk : sdk.Lawful) {spec : DeviceSpec}
    (hvalid : spec.Valid) (hid : IsIdentifier spec.id)
    (hlabel : spec.label ≠ "") :
    ProviderSchema.device.accepts sdk.toResolver
      (.map (writeDevice spelling spec)) = true := by
  have hencoders := @writeDevice_encoders _ spelling spec
  refine Object.accepts_iff.mpr ⟨_, rfl, ?_, ?_, ?_⟩
  · cases htype : spec.type <;>
      simp [writeDevice, writeEncoders, htype, entry, Member.key,
        ProviderSchema.id, ProviderSchema.type, ProviderSchema.label,
        ProviderSchema.address, ProviderSchema.commandWatchdogMs,
        ProviderSchema.encoders]
  · simp only [List.forall_mem_cons]
    refine ⟨?_, ?_, ?_, ?_, ?_, ?_, List.forall_mem_nil _⟩
    · have hname := (hsdk.identifier _).mpr hid
      refine Member.field_accepted hsdk.toLawful rfl
        (spelling.reads .string spec.id trivial) ?_
      simp [Kind.admits, ProviderSchema.id, hname]
    · refine Member.field_accepted hsdk.toLawful rfl
        (spelling.reads .string spec.type.toString trivial)
        ((Kind.admits_values (by simp)).mpr ?_)
      cases spec.type <;> simp [DeviceType.toString]
    · refine Member.field_accepted hsdk.toLawful rfl
        (spelling.reads .string spec.label trivial) ?_
      simp [Kind.admits, ProviderSchema.label, hlabel]
    · exact Member.field_accepted hsdk.toLawful rfl
        (spelling.reads .i2cAddress spec.address hvalid.address) rfl
    · have hrange := hvalid.watchdog
      have hspelled : -2 ^ 63 ≤ spec.commandWatchdogMs
          ∧ spec.commandWatchdogMs < 2 ^ 63 := by omega
      exact Member.field_accepted hsdk.toLawful rfl
        (spelling.reads .int64 spec.commandWatchdogMs hspelled)
        (Kind.admits_integer.mpr hrange)
    · cases htype : spec.type with
      | rlht =>
          rw [htype] at hencoders
          exact Member.field_omitted hencoders rfl
      | dcmt =>
          rw [htype] at hencoders
          exact Member.field_accepted hsdk.toLawful hencoders
            (spelling.reads .bool spec.encoders trivial) rfl
  · simp only [List.forall_mem_cons]
    refine ⟨When.holds_of
      (spelling.reads .string spec.type.toString trivial) ?_,
      List.forall_mem_nil _⟩
    intro hrlht
    have htype : spec.type = .rlht := by
      cases hcase : spec.type with
      | rlht => rfl
      | dcmt =>
          rw [hcase] at hrlht
          simp [DeviceType.toString] at hrlht
    refine ⟨by simp, ?_⟩
    intro key hkey
    obtain rfl : key = "encoders" := by simpa using hkey
    rw [htype] at hencoders
    exact sdk.present_of_lookup_none hencoders

/-- The column of a field that every row has. -/
theorem column_written (f : Field) (specs : List DeviceSpec)
    {value : DeviceSpec → f.kind.reading.Value}
    (h : ∀ spec ∈ specs, sdk.read f.kind.reading
      (lookup (writeDevice spelling spec) f.key) = some (value spec)) :
    f.column sdk.toResolver
      (specs.map fun spec => .map (writeDevice spelling spec))
        = specs.map value := by
  induction specs with
  | nil => rfl
  | cons spec rest ih =>
      obtain ⟨hspec, hrest⟩ := List.forall_mem_cons.mp h
      rw [List.map_cons, Field.column_cons hspec, ih hrest, List.map_cons]

theorem written_accepted (hsdk : sdk.Lawful) {config : ProviderConfig}
    (h : config.Loadable) :
    providerSchema.accepts sdk.toResolver (writeSections spelling config
      (config.devices.map fun spec => .map (writeDevice spelling spec)))
        = true := by
  refine Object.accepts_iff.mpr ⟨_, rfl, ?_, ?_, by simp⟩
  · simp [entry, Member.key]
  · simp only [List.forall_mem_cons]
    refine ⟨?_, ?_, ?_, ?_, List.forall_mem_nil _⟩
    · exact Member.child_accepted rfl (provider_accepted hsdk h)
    · exact Member.child_accepted rfl (hardware_accepted hsdk h)
    · exact Member.child_accepted rfl (discovery_accepted hsdk h)
    · refine Member.ofObjects_accepted rfl ?_ ?_
      · intro row hrow
        obtain ⟨spec, hspec, rfl⟩ := List.mem_map.mp hrow
        exact device_accepted hsdk (h.devices spec hspec)
          (h.identifiers spec hspec) (h.labels spec hspec)
      · have hids : ProviderSchema.id.column sdk.toResolver
            (config.devices.map fun spec => .map (writeDevice spelling spec))
              = config.devices.map (·.id) :=
          column_written ProviderSchema.id _ fun spec _ =>
            spelling.reads .string spec.id trivial
        have haddresses : ProviderSchema.address.column sdk.toResolver
            (config.devices.map fun spec => .map (writeDevice spelling spec))
              = config.devices.map (·.address) :=
          column_written ProviderSchema.address _ fun spec hspec =>
            spelling.reads .i2cAddress spec.address (h.devices spec hspec).address
        have hfields : ProviderSchema.device.uniqueFields
            = [ProviderSchema.id, ProviderSchema.address] := rfl
        rw [hfields]
        simp only [List.forall_mem_cons]
        refine ⟨?_, ?_, List.forall_mem_nil _⟩
        · rw [hids]
          exact h.ids
        · rw [haddresses]
          exact h.addresses

end Accepted

/-! ## And it reads as the config -/

section Read

variable {sdk : ConfigSdk} {spelling : Spelling sdk.toResolver}

theorem readDevice_written (hsdk : sdk.Lawful) {spec : DeviceSpec}
    (hvalid : spec.Valid) :
    readDevice sdk (.map (writeDevice spelling spec)) = .ok spec := by
  have hspelled : -2 ^ 63 ≤ spec.commandWatchdogMs
      ∧ spec.commandWatchdogMs < 2 ^ 63 := by
    have := hvalid.watchdog
    omega
  have hid : sdk.read .string (lookup (writeDevice spelling spec) "id")
      = some spec.id := spelling.reads .string spec.id trivial
  have htype : sdk.read .string (lookup (writeDevice spelling spec) "type")
      = some spec.type.toString :=
    spelling.reads .string spec.type.toString trivial
  have hlabel : sdk.read .string (lookup (writeDevice spelling spec) "label")
      = some spec.label := spelling.reads .string spec.label trivial
  have haddress : sdk.read .i2cAddress
      (lookup (writeDevice spelling spec) "address") = some spec.address :=
    spelling.reads .i2cAddress spec.address hvalid.address
  have hwatchdog : sdk.read .int64
      (lookup (writeDevice spelling spec) "command_watchdog_ms")
        = some spec.commandWatchdogMs :=
    spelling.reads .int64 spec.commandWatchdogMs hspelled
  have hencoders : (sdk.read .bool
      (lookup (writeDevice spelling spec) "encoders")).getD true
        = spec.encoders := by
    rw [writeDevice_encoders]
    cases hcase : spec.type with
    | rlht =>
        show (sdk.read .bool none).getD true = spec.encoders
        rw [hsdk.undefined, hvalid.encoders hcase]
        rfl
    | dcmt =>
        show (sdk.read .bool (some (spelling.node .bool spec.encoders))).getD
          true = spec.encoders
        rw [spelling.reads .bool spec.encoders trivial]
        rfl
  have hcast : castInt spec.commandWatchdogMs = spec.commandWatchdogMs := by
    have := hvalid.watchdog
    exact castInt_of_mem (by omega)
  simp only [readDevice, readKey_map]
  change (parseOr parseDeviceType .rlht (sdk.read .string
    (lookup (writeDevice spelling spec) "type")) >>= _) = _
  rw [htype]
  change (parseDeviceType spec.type.toString >>= _) = _
  rw [parseDeviceType_toString, hid, hlabel, haddress, hwatchdog]
  change Except.ok _ = _
  rw [hencoders]
  simp only [Option.getD_some, Option.map_some, hcast]

theorem readDevices_written (hsdk : sdk.Lawful) {specs : List DeviceSpec}
    (h : ∀ spec ∈ specs, spec.Valid) :
    readDevices sdk (specs.map fun spec => .map (writeDevice spelling spec))
      = .ok specs := by
  induction specs with
  | nil => rfl
  | cons spec rest ih =>
      obtain ⟨hspec, hrest⟩ := List.forall_mem_cons.mp h
      rw [List.map_cons, readDevices, readDevice_written hsdk hspec]
      change (readDevices sdk _ >>= _) = _
      rw [ih hrest]
      rfl

theorem readHardware_written (hsdk : sdk.Lawful)
    {config config' : ProviderConfig} (h : config.Loadable) (hclock : config'.maxBusHz = none)
    (rows : List Yaml) :
    readHardware sdk (writeSections spelling config rows) config'
      = .ok { config' with
          busPath := config.busPath
          queryDelayUs := config.queryDelayUs
          timeoutMs := config.timeoutMs
          retryCount := config.retryCount
          maxBusHz := config.maxBusHz } := by
  have hint : ∀ (key : String) {n : Int},
      lookup (writeHardware spelling config) key
        = some (spelling.node .int64 n) → 0 ≤ n ∧ n ≤ 2147483647 →
      (sdk.read .int64 (lookup (writeHardware spelling config) key)).map castInt
        = some n := by
    intro key n hnode hrange
    have hspelled : -2 ^ 63 ≤ n ∧ n < 2 ^ 63 := by omega
    have hread : sdk.read .int64 (some (spelling.node .int64 n)) = some n :=
      spelling.reads .int64 n hspelled
    rw [hnode, hread, Option.map_some, castInt_of_mem (by omega)]
  have hpath : sdk.read .string
      (lookup (writeHardware spelling config) "bus_path")
        = some config.busPath := spelling.reads .string config.busPath trivial
  have hdelay := hint "query_delay_us" rfl
    ⟨by have := h.queryDelay; omega, h.queryDelay.2⟩
  have htimeout := hint "timeout_ms" rfl
    ⟨by have := h.timeout; omega, h.timeout.2⟩
  have hretry := hint "retry_count" rfl h.retryCount
  have hmax : (sdk.read .int64
      (lookup (writeHardware spelling config) "max_bus_hz")).map castUInt32
        = config.maxBusHz := by
    cases hcase : config.maxBusHz with
    | none =>
        have habsent : lookup (writeHardware spelling config) "max_bus_hz"
            = none := by
          simp [writeHardware, writeMaxBusHz, hcase, entry]
        rw [habsent, hsdk.undefined]
        rfl
    | some hz =>
        have hrange := h.clock hz hcase
        have hspelled : -2 ^ 63 ≤ (hz : Int) ∧ (hz : Int) < 2 ^ 63 := by omega
        have hnode : lookup (writeHardware spelling config) "max_bus_hz"
            = some (spelling.node .int64 (hz : Int)) := by
          simp [writeHardware, writeMaxBusHz, hcase, entry]
        have hread : sdk.read .int64 (some (spelling.node .int64 (hz : Int)))
            = some (hz : Int) := spelling.reads .int64 (hz : Int) hspelled
        have hcast : (castUInt32 (hz : Int) : Int) = (hz : Int) :=
          castUInt32_of_mem (by omega)
        rw [hnode, hread, Option.map_some]
        exact congrArg some (by omega)
  change Except.ok _ = _
  rw [hpath, hdelay, htimeout, hretry, hmax, hclock]
  simp only [Option.getD_some, Option.or_none]

theorem readDiscovery_written {config config' : ProviderConfig}
    (h : config.Loadable) (hnone : config'.manualAddresses = []) (rows : List Yaml) :
    readDiscovery sdk (writeSections spelling config rows) config'
      = .ok { config' with
          discoveryMode := config.discoveryMode
          manualAddresses := config.manualAddresses } := by
  have hmode : sdk.read .string
      (lookup (writeDiscovery spelling config) "mode")
        = some config.discoveryMode.toString :=
    spelling.reads .string config.discoveryMode.toString trivial
  have haddresses : (elements
      (lookup (writeDiscovery spelling config) "addresses")).filterMap
        (fun node => sdk.read .i2cAddress (some node))
          = config.manualAddresses := by
    cases hlist : config.manualAddresses with
    | nil => simp [writeDiscovery, writeAddresses, hlist, entry, elements]
    | cons first rest =>
        have hall := @addresses_read sdk spelling _ h.manual
        rw [hlist] at hall
        simpa [writeDiscovery, writeAddresses, hlist, entry, elements]
          using hall
  change (parseOr parseDiscoveryMode config'.discoveryMode (sdk.read .string
    (lookup (writeDiscovery spelling config) "mode")) >>= _) = _
  rw [hmode]
  change (parseDiscoveryMode config.discoveryMode.toString >>= _) = _
  rw [parseDiscoveryMode_toString]
  change Except.ok _ = _
  rw [hnone, haddresses, List.nil_append]

theorem readProvider_written {config : ProviderConfig} (rows : List Yaml) :
    readProvider sdk (writeSections spelling config rows) {}
      = .ok { providerName := config.providerName
              outputsOnStartup := config.outputsOnStartup } := by
  have hname : sdk.read .string
      (lookup (writeProvider spelling config) "name")
        = some config.providerName :=
    spelling.reads .string config.providerName trivial
  have hpolicy : sdk.read .string
      (lookup (writeProvider spelling config) "outputs_on_startup")
        = some config.outputsOnStartup.toString :=
    spelling.reads .string config.outputsOnStartup.toString trivial
  change (parseOr parseOutputsOnStartup .safe (sdk.read .string
    (lookup (writeProvider spelling config) "outputs_on_startup")) >>= _) = _
  rw [hpolicy]
  change (parseOutputsOnStartup config.outputsOnStartup.toString >>= _) = _
  rw [parseOutputsOnStartup_toString]
  change Except.ok _ = _
  rw [hname, Option.getD_some]

theorem readConfig_written (hsdk : sdk.Lawful) {config : ProviderConfig}
    (h : config.Loadable) :
    readConfig sdk (writeSections spelling config
      (config.devices.map fun spec => .map (writeDevice spelling spec)))
        = .ok config := by
  rw [readConfig, readProvider_written]
  dsimp only [bind, Except.bind]
  rw [readHardware_written hsdk h rfl]
  dsimp only
  rw [readDiscovery_written h rfl]
  change (readDevices sdk (config.devices.map fun spec =>
    Yaml.map (writeDevice spelling spec)) >>= _) = _
  rw [readDevices_written hsdk h.devices]
  rfl

end Read

/-! ## An SDK -/

namespace Reference

def readScalar : (t : Reading) → Yaml → Option t.Value
  | .string, .scalar text _ => some text
  | .int64, .scalar text false => text.toInt?
  | .bool, .scalar text false =>
      if text = "true" then some true
      else if text = "false" then some false
      else none
  | .i2cAddress, .scalar text false =>
      text.toInt?.filter fun address => 0x08 ≤ address ∧ address ≤ 0x77
  | _, _ => none

def resolver : Resolver where
  read t node := node.bind (readScalar t)
  matchesPattern _ text := decide (IsIdentifier text)
  nullAbsent := true

/-- An SDK that finds `root` in every file. -/
def configSdk (root : Yaml) : ConfigSdk where
  toResolver := resolver
  loadFile _ := .ok root
  validate schema node :=
    if schema.accepts resolver node then [] else ["not what the schema says"]
  formatErrors := String.intercalate "\n"

theorem configSdk_lawful (root : Yaml) : (configSdk root).Lawful where
  undefined _ := rfl
  null _ t := by cases t <;> rfl
  address := by
    intro node address hread
    obtain ⟨y, rfl, hy⟩ := Option.bind_eq_some_iff.mp hread
    cases y with
    | scalar text quoted =>
        cases quoted with
        | true => cases hy
        | false => simpa using (Option.filter_eq_some_iff.mp hy).2
    | null | sequence _ | map _ => cases hy
  validate schema node := by
    show (if schema.accepts resolver node then _ else _) = [] ↔ _
    by_cases h : schema.accepts resolver node = true
    · simp [h, configSdk]
    · simp [h, configSdk]
  identifier text := decide_eq_true_iff

def spelling : Spelling resolver where
  node
    | .string, text => .scalar text true
    | .int64, n => .scalar n.repr false
    | .bool, b => .scalar (if b then "true" else "false") false
    | .i2cAddress, address => .scalar address.repr false
  reads t value h := by
    cases t with
    | string => rfl
    | int64 => exact Int.toInt?_repr value
    | bool => cases value <;> rfl
    | i2cAddress =>
        show (Int.repr value).toInt?.filter _ = some value
        rw [Int.toInt?_repr]
        exact if_pos (decide_eq_true (by exact h))
  text value := ⟨true, rfl⟩

theorem config_loadable : config.Loadable where
  ids := config_distinct.ids
  addresses := config_distinct.addresses
  busPath := by decide
  queryDelay := by decide
  timeout := by decide
  retryCount := by decide
  devices := by
    simp only [config, List.forall_mem_cons]
    exact ⟨⟨⟨by decide, by decide⟩, by decide, fun _ => rfl⟩,
      ⟨⟨by decide, by decide⟩, by decide, fun _ => rfl⟩, List.forall_mem_nil _⟩
  manual := by
    simp only [config, List.forall_mem_cons]
    exact ⟨⟨by decide, by decide⟩, ⟨by decide, by decide⟩,
      List.forall_mem_nil _⟩
  manualDistinct := by decide
  name := identifier_default
  clock := nofun
  listed := by decide
  identifiers := by
    have hheater : IsIdentifier "heater" := by decide
    have hpump : IsIdentifier "pump" := by decide
    simp only [config, List.forall_mem_cons]
    exact ⟨hheater, hpump, List.forall_mem_nil _⟩
  labels := by decide

/-- The document of `config`, with `encoders` on the heater. -/
def strayDocument : Yaml :=
  writeSections spelling config
    [.map (entry "encoders" .null :: writeDevice spelling rlhtSpec),
      .map (writeDevice spelling dcmtSpec)]

theorem strayDocument_writes : Writes spelling config strayDocument := by
  refine .sections (.cons ?_ (.cons .plain .nil))
  have hrow : writeDevice spelling rlhtSpec
      = [] ++ writeDevice spelling rlhtSpec := rfl
  exact .stray hrow rfl rfl

end Reference

/-! ## Loading -/

section Loading

variable {sdk : ConfigSdk}

theorem loadRoot_accepted (hsdk : sdk.Lawful) (path : String) {root : Yaml}
    (h : providerSchema.accepts sdk.toResolver (dropRlhtEncoders root)
      = true) :
    ∃ config, loadRoot sdk path root = .ok config ∧ config.Loadable := by
  obtain ⟨config, hread, hloadable⟩ := readConfig_ok hsdk h
  refine ⟨config, ?_, hloadable⟩
  unfold loadRoot
  simp only [(hsdk.validate _ _).mpr h, ne_eq, not_true_eq_false, if_false]
  exact hread

theorem loadRoot_refused (hsdk : sdk.Lawful) (path : String) {root : Yaml}
    (h : ¬ providerSchema.accepts sdk.toResolver (dropRlhtEncoders root)
      = true) :
    sdk.validate providerSchema (dropRlhtEncoders root) ≠ [] ∧
    loadRoot sdk path root
      = .error ("Invalid config '" ++ path ++ "':\n" ++ sdk.formatErrors
        (sdk.validate providerSchema (dropRlhtEncoders root))) := by
  have herrors : sdk.validate providerSchema (dropRlhtEncoders root) ≠ [] :=
    fun hnil => h ((hsdk.validate _ _).mp hnil)
  exact ⟨herrors, if_pos herrors⟩

theorem loadRoot_loadable (hsdk : sdk.Lawful) {path : String} {root : Yaml}
    {config : ProviderConfig} (h : loadRoot sdk path root = .ok config) :
    config.Loadable := by
  by_cases haccepts : providerSchema.accepts sdk.toResolver
      (dropRlhtEncoders root) = true
  · obtain ⟨config', hload, hloadable⟩ :=
      loadRoot_accepted hsdk path haccepts
    obtain rfl := Except.ok.inj (hload.symm.trans h)
    exact hloadable
  · rw [(loadRoot_refused hsdk path haccepts).2] at h
    cases h

theorem loadConfig_loadable (hsdk : sdk.Lawful) {path : String}
    {config : ProviderConfig} (h : loadConfig sdk path = .ok config) :
    config.Loadable := by
  unfold loadConfig at h
  cases hfile : sdk.loadFile path with
  | error e => simp [hfile] at h
  | ok root =>
      rw [hfile] at h
      exact loadRoot_loadable hsdk h

/-- A file loads exactly if it parses and, once `encoders` is dropped from its
RLHT rows, the schema accepts it. What it loads as is a config the runtime may
rely on; where it does not load, the text is the parser's or the validator's,
since nothing after validation throws. -/
theorem load_config_law (hsdk : sdk.Lawful) (path : String) :
    ((∃ config, loadConfig sdk path = .ok config) ↔
      ∃ root, sdk.loadFile path = .ok root ∧
        providerSchema.accepts sdk.toResolver (dropRlhtEncoders root)
          = true) ∧
    (∀ config, loadConfig sdk path = .ok config → config.Loadable) ∧
    ∀ what, loadConfig sdk path = .error what →
      (∃ e, sdk.loadFile path = .error e ∧
        what = "Failed to parse config '" ++ path ++ "': " ++ e) ∨
      ∃ root errors, sdk.loadFile path = .ok root ∧ errors ≠ [] ∧
        sdk.validate providerSchema (dropRlhtEncoders root) = errors ∧
        what = "Invalid config '" ++ path ++ "':\n"
          ++ sdk.formatErrors errors := by
  refine ⟨?_, fun config => loadConfig_loadable hsdk, ?_⟩
  · unfold loadConfig
    cases sdk.loadFile path with
    | error e => simp
    | ok root =>
        show (∃ config, loadRoot sdk path root = .ok config) ↔ _
        constructor
        · intro ⟨config, hload⟩
          by_contra hnone
          have hrefused := (loadRoot_refused hsdk path fun haccepts =>
            hnone ⟨root, rfl, haccepts⟩).2
          rw [hrefused] at hload
          cases hload
        · intro ⟨root', hroot, haccepts⟩
          obtain rfl := Except.ok.inj hroot
          obtain ⟨config, hload, -⟩ := loadRoot_accepted hsdk path haccepts
          exact ⟨config, hload⟩
  · intro what hwhat
    unfold loadConfig at hwhat
    cases hfile : sdk.loadFile path with
    | error e =>
        rw [hfile] at hwhat
        exact .inl ⟨e, rfl, (Except.error.inj hwhat).symm⟩
    | ok root =>
        rw [hfile] at hwhat
        replace hwhat : loadRoot sdk path root = .error what := hwhat
        by_cases haccepts : providerSchema.accepts sdk.toResolver
            (dropRlhtEncoders root) = true
        · obtain ⟨config, hload, -⟩ := loadRoot_accepted hsdk path haccepts
          rw [hload] at hwhat
          cases hwhat
        · obtain ⟨herrors, hload⟩ := loadRoot_refused hsdk path haccepts
          rw [hload] at hwhat
          exact .inr ⟨root, _, rfl, herrors, rfl,
            (Except.error.inj hwhat).symm⟩

open Reference in
theorem load_config_law_stray :
    ∃ config, loadConfig (configSdk strayDocument) "bread.yaml" = .ok config ∧
      config.Loadable := by
  have hlaw := load_config_law (configSdk_lawful strayDocument) "bread.yaml"
  have haccepts : providerSchema.accepts resolver
      (dropRlhtEncoders strayDocument) = true := by
    rw [strayDocument_writes.dropped]
    exact written_accepted (configSdk_lawful strayDocument) config_loadable
  obtain ⟨config, hload⟩ := hlaw.1.mpr ⟨strayDocument, rfl, haccepts⟩
  exact ⟨config, hload, hlaw.2.1 config hload⟩

/-- A document that says a loadable config loads as it. -/
theorem loadRoot_written (hsdk : sdk.Lawful)
    {spelling : Spelling sdk.toResolver} (path : String)
    {config : ProviderConfig} (h : config.Loadable) {root : Yaml}
    (hroot : Writes spelling config root) :
    loadRoot sdk path root = .ok config := by
  have hvalid := (hsdk.validate providerSchema _).mpr
    (@written_accepted sdk spelling hsdk config h)
  unfold loadRoot
  simp only [hroot.dropped, hvalid, ne_eq, not_true_eq_false, if_false]
  exact readConfig_written hsdk h

/-- The configs that loading can return are exactly the loadable ones, and
each is what any document that says it loads as, stray `encoders` keys on its
RLHT rows or not. -/
theorem loadable_iff_loaded (hsdk : sdk.Lawful)
    (spelling : Spelling sdk.toResolver) (path : String)
    (config : ProviderConfig) :
    ((∃ root, loadRoot sdk path root = .ok config) ↔ config.Loadable) ∧
    (config.Loadable → ∀ root, Writes spelling config root →
      loadRoot sdk path root = .ok config) := by
  refine ⟨⟨?_, fun h => ?_⟩, fun h _ hroot => loadRoot_written hsdk path h hroot⟩
  · intro ⟨root, hload⟩
    exact loadRoot_loadable hsdk hload
  · have hrows : List.Forall₂ (WritesRow spelling) config.devices
        (config.devices.map fun spec => .map (writeDevice spelling spec)) :=
      List.forall₂_map_right_iff.mpr (List.forall₂_same.mpr
        fun spec _ => .plain)
    exact ⟨_, loadRoot_written hsdk path h (.sections hrows)⟩

open Reference in
theorem loadable_iff_loaded_stray :
    loadRoot (configSdk strayDocument) "bread.yaml" strayDocument
      = .ok config :=
  (loadable_iff_loaded (configSdk_lawful strayDocument) spelling "bread.yaml"
    config).2 config_loadable strayDocument strayDocument_writes

end Loading

end BreadProvider
