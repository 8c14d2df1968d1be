import BreadProvider.Config.Load

/-!
# Provider — what loading lets through

Validation and extraction agree: what the schema accepts is read without an
exception, every number keeps its value, and the config that comes out is one
the runtime may rely on.
-/

namespace BreadProvider

open ConfigSchema Yaml

variable {sdk : ConfigSdk}

/-! ## The statement -/

/-- What holds of every loaded config. -/
structure ProviderConfig.Loadable (config : ProviderConfig) : Prop
    extends config.Valid where
  name : IsIdentifier config.providerName
  clock : ∀ hz, config.maxBusHz = some hz → 1 ≤ hz ∧ hz ≤ 5000000
  /-- Manual discovery has addresses to probe; scan carries none. -/
  listed : config.discoveryMode = .manual ↔ config.manualAddresses ≠ []
  identifiers : ∀ spec ∈ config.devices, IsIdentifier spec.id
  labels : ∀ spec ∈ config.devices, spec.label ≠ ""

/-- Every default the schema declares passes the check of its own field. -/
theorem ProviderSchema.defaults_admitted (hsdk : sdk.Lawful) :
    ∀ f ∈ ProviderSchema.fields, ∀ value, f.default = some value →
      f.kind.admits sdk.toResolver value = true := by
  have hname : sdk.matchesPattern kIdentifierPattern "anolis-provider-bread"
      = true := by
    rw [hsdk.identifier]
    decide
  intro f hf value hvalue
  simp only [ProviderSchema.fields, List.mem_cons, List.not_mem_nil,
    or_false] at hf
  rcases hf with rfl | rfl | rfl | rfl | rfl | rfl | rfl | rfl | rfl | rfl
    | rfl | rfl | rfl | rfl | rfl
  all_goals cases hvalue
  · simp [Kind.admits, ProviderSchema.name, hname]
  all_goals rfl

/-! ## Reading by key -/

theorem castInt_of_mem {n : Int} (h : -2 ^ 31 ≤ n ∧ n < 2 ^ 31) :
    castInt n = n := by
  unfold castInt
  rw [Int.bmod_eq_of_le] <;> omega

theorem castUInt32_of_mem {n : Int} (h : 0 ≤ n ∧ n < 2 ^ 32) :
    (castUInt32 n : Int) = n := by
  unfold castUInt32
  omega

@[simp] theorem readKey_map (t : Reading) (entries : List (Yaml × Yaml))
    (key : String) :
    readKey sdk t (some (.map entries)) key
      = .ok (sdk.read t (lookup entries key)) := rfl

/-- Nothing is read below a key that counts as absent. -/
theorem subscript_absent {entries : List (Yaml × Yaml)} {key : String}
    (h : sdk.present entries key = none) (key' : String) :
    subscript (lookup entries key) key' = .ok none := by
  cases hnode : lookup entries key with
  | none => rfl
  | some node =>
      cases node with
      | null => rfl
      | scalar _ _ | sequence _ | map _ =>
          have hpresent := sdk.present_of_lookup hnode (by simp)
          rw [h] at hpresent
          cases hpresent

theorem readKey_absent (hsdk : sdk.Lawful) {entries : List (Yaml × Yaml)}
    {key : String} (h : sdk.present entries key = none) (t : Reading)
    (key' : String) : readKey sdk t (lookup entries key) key' = .ok none := by
  rw [readKey, subscript_absent h]
  exact congrArg Except.ok (hsdk.undefined t)

theorem elements_absent {entries : List (Yaml × Yaml)} {key : String}
    (h : sdk.present entries key = none) :
    elements (lookup entries key) = [] := by
  cases hnode : lookup entries key with
  | none => rfl
  | some node =>
      cases node with
      | null => rfl
      | scalar _ _ | sequence _ | map _ =>
          have hpresent := sdk.present_of_lookup hnode (by simp)
          rw [h] at hpresent
          cases hpresent

/-- A bounded integer is read as it was written. -/
theorem readInt_range (hsdk : sdk.Lawful) {key : String} {min max : Int}
    {required unique : Bool} {default : Option Int}
    {entries : List (Yaml × Yaml)}
    (h : (Member.field { key, kind := .integer (some min) (some max), required
                         unique, default }).accepts sdk.toResolver entries
      = true)
    (hmin : -2 ^ 31 ≤ min) (hmax : max < 2 ^ 31) {d : Int}
    (hd : min ≤ d ∧ d ≤ max) :
    min ≤ ((sdk.read .int64 (lookup entries key)).map castInt).getD d ∧
      ((sdk.read .int64 (lookup entries key)).map castInt).getD d ≤ max := by
  rcases Member.field_read hsdk.toLawful h with ⟨hnone, -⟩ | ⟨n, hread, hadmits⟩
  · have hnone : sdk.read .int64 (lookup entries key) = none := hnone
    rw [hnone]
    exact hd
  · have hread : sdk.read .int64 (lookup entries key) = some n := hread
    have hrange := Kind.admits_integer.mp hadmits
    rw [hread, Option.map_some, Option.getD_some, castInt_of_mem (by omega)]
    exact hrange

/-- A value of an enumeration parses. -/
theorem parseOr_values {α : Type} {parse : String → Except String α}
    (hsdk : sdk.Lawful) {key : String} {values : List String}
    {required unique : Bool} {default : Option String}
    {entries : List (Yaml × Yaml)}
    (h : (Member.field { key, kind := .string none false values, required
                         unique, default }).accepts sdk.toResolver entries
      = true)
    (hvalues : values ≠ [])
    (hparse : ∀ value ∈ values, ∃ a, parse value = .ok a) (d : α) :
    ∃ a, parseOr parse d (sdk.read .string (lookup entries key)) = .ok a := by
  rcases Member.field_read hsdk.toLawful h with ⟨hnone, -⟩ | ⟨v, hread, hadmits⟩
  · have hnone : sdk.read .string (lookup entries key) = none := hnone
    rw [hnone]
    exact ⟨d, rfl⟩
  · have hread : sdk.read .string (lookup entries key) = some v := hread
    rw [hread]
    exact hparse v ((Kind.admits_values hvalues).mp hadmits)

/-- A required field of an enumeration is one of its values. -/
theorem read_value (hsdk : sdk.Lawful) {key : String} {values : List String}
    {unique : Bool} {default : Option String} {entries : List (Yaml × Yaml)}
    (h : (Member.field { key, kind := .string none false values
                         required := true, unique, default }).accepts
      sdk.toResolver entries = true) (hvalues : values ≠ []) :
    ∃ text : String, sdk.read .string (lookup entries key) = some text ∧
      text ∈ values := by
  obtain ⟨text, hread, hadmits⟩ := Member.required_read hsdk.toLawful h rfl
  exact ⟨text, hread, (Kind.admits_values hvalues).mp hadmits⟩

/-- What is read of a field with the identifier pattern is an identifier. -/
theorem read_identifier (hsdk : sdk.Lawful) {key : String}
    {required unique : Bool} {default : Option String}
    {entries : List (Yaml × Yaml)}
    (h : (Member.field { key, kind := .string (some kIdentifierPattern) false []
                         required, unique, default }).accepts sdk.toResolver
      entries = true)
    {text : String} (hread : sdk.read .string (lookup entries key) = some text) :
    IsIdentifier text := by
  rcases Member.field_read hsdk.toLawful h with ⟨hnone, -⟩ | ⟨v, hv, hadmits⟩
  · have hnone : sdk.read .string (lookup entries key) = none := hnone
    rw [hnone] at hread
    cases hread
  · obtain rfl : v = text := Option.some.inj (hv.symm.trans hread)
    exact (hsdk.identifier v).mp (by simpa [Kind.admits] using hadmits)

/-- What is read of a field that may not be empty is not. -/
theorem read_nonEmpty (hsdk : sdk.Lawful) {key : String}
    {required unique : Bool} {default : Option String}
    {entries : List (Yaml × Yaml)}
    (h : (Member.field { key, kind := .string none true [], required, unique
                         default }).accepts sdk.toResolver entries = true)
    {text : String} (hread : sdk.read .string (lookup entries key) = some text) :
    text ≠ "" := by
  rcases Member.field_read hsdk.toLawful h with ⟨hnone, -⟩ | ⟨v, hv, hadmits⟩
  · have hnone : sdk.read .string (lookup entries key) = none := hnone
    rw [hnone] at hread
    cases hread
  · obtain rfl : v = text := Option.some.inj (hv.symm.trans hread)
    simpa [Kind.admits] using hadmits

/-! ## The sections -/

section Sections

variable {entries : List (Yaml × Yaml)}

theorem identifier_default : IsIdentifier "anolis-provider-bread" := by
  decide

theorem readProvider_ok (hsdk : sdk.Lawful)
    (h : (Member.child "provider" false ProviderSchema.provider).accepts
      sdk.toResolver entries = true) :
    ∃ providerName outputsOnStartup,
      readProvider sdk (.map entries) {}
        = .ok { providerName, outputsOnStartup } ∧
      IsIdentifier providerName := by
  rcases Member.child_present h with ⟨habsent, -⟩ | ⟨node, hnode, haccepts⟩
  · refine ⟨"anolis-provider-bread", .safe, ?_, identifier_default⟩
    change (readKey sdk .string (lookup entries "provider") "name" >>= _) = _
    rw [readKey_absent hsdk habsent]
    change (readKey sdk .string (lookup entries "provider")
      "outputs_on_startup" >>= _) = _
    rw [readKey_absent hsdk habsent]
    rfl
  · obtain ⟨fields, rfl, -, hmembers, -⟩ := Object.accepts_iff.mp haccepts
    have hname := hmembers (.field ProviderSchema.name) (by simp)
    have hpolicy := hmembers (.field ProviderSchema.outputsOnStartup) (by simp)
    have hvalues : ∀ value ∈ ["safe", "leave"],
        ∃ policy, parseOutputsOnStartup value = .ok policy := by
      simp [parseOutputsOnStartup]
    obtain ⟨policy, hparse⟩ :=
      parseOr_values hsdk hpolicy (by simp) hvalues OutputsOnStartup.safe
    refine ⟨(sdk.read .string (lookup fields "name")).getD
      "anolis-provider-bread", policy, ?_, ?_⟩
    · simp only [readProvider, subscript_map, hnode]
      change (parseOr parseOutputsOnStartup .safe
        (sdk.read .string (lookup fields "outputs_on_startup")) >>= _) = _
      rw [hparse]
      rfl
    · cases hread : sdk.read .string (lookup fields "name") with
      | none => exact identifier_default
      | some text => exact read_identifier hsdk hname hread

theorem readHardware_ok (hsdk : sdk.Lawful)
    (h : (Member.child "hardware" true ProviderSchema.hardware).accepts
      sdk.toResolver entries = true) (providerName : String)
    (outputsOnStartup : OutputsOnStartup) :
    ∃ busPath queryDelayUs timeoutMs retryCount maxBusHz,
      readHardware sdk (.map entries) { providerName, outputsOnStartup }
        = .ok { providerName, outputsOnStartup, busPath, queryDelayUs
                timeoutMs, retryCount, maxBusHz } ∧
      busPath ≠ "" ∧
      (1 ≤ queryDelayUs ∧ queryDelayUs ≤ 2147483647) ∧
      (1 ≤ timeoutMs ∧ timeoutMs ≤ 2147483647) ∧
      (0 ≤ retryCount ∧ retryCount ≤ 2147483647) ∧
      ∀ hz, maxBusHz = some hz → 1 ≤ hz ∧ hz ≤ 5000000 := by
  rcases Member.child_present h with ⟨-, hnot⟩ | ⟨node, hnode, haccepts⟩
  · cases hnot
  · obtain ⟨fields, rfl, -, hmembers, -⟩ := Object.accepts_iff.mp haccepts
    have hpath := hmembers (.field ProviderSchema.busPath) (by simp)
    have hdelay := readInt_range hsdk
      (hmembers (.field ProviderSchema.queryDelayUs) (by simp)) (by decide)
      (by decide) (d := 10000) (by decide)
    have htimeout := readInt_range hsdk
      (hmembers (.field ProviderSchema.timeoutMs) (by simp)) (by decide)
      (by decide) (d := 100) (by decide)
    have hretry := readInt_range hsdk
      (hmembers (.field ProviderSchema.retryCount) (by simp)) (by decide)
      (by decide) (d := 2) (by decide)
    have hclock := hmembers (.field ProviderSchema.maxBusHz) (by simp)
    obtain ⟨path, hread, -⟩ := Member.required_read hsdk.toLawful hpath rfl
    have hread : sdk.read .string (lookup fields "bus_path") = some path :=
      hread
    refine ⟨path, _, _, _,
      (sdk.read .int64 (lookup fields "max_bus_hz")).map castUInt32, ?_,
      read_nonEmpty hsdk hpath hread, hdelay, htimeout, hretry, ?_⟩
    · simp only [readHardware, subscript_map, hnode]
      change Except.ok _ = _
      simp only [hread, Option.or_none]
      rfl
    · intro hz hhz
      obtain ⟨n, hn, rfl⟩ := Option.map_eq_some_iff.mp hhz
      rcases Member.field_read hsdk.toLawful hclock with ⟨hnone, -⟩ | ⟨m, hm, hadmits⟩
      · have hnone : sdk.read .int64 (lookup fields "max_bus_hz") = none :=
          hnone
        rw [hnone] at hn
        cases hn
      · obtain rfl : m = n := Option.some.inj (hm.symm.trans hn)
        obtain ⟨hlo, hhi⟩ := Kind.admits_integer.mp hadmits
        have hcast := castUInt32_of_mem (n := m) (by omega)
        omega

theorem readDiscovery_ok (hsdk : sdk.Lawful)
    (h : (Member.child "discovery" true ProviderSchema.discovery).accepts
      sdk.toResolver entries = true) (config : ProviderConfig)
    (hnone : config.manualAddresses = []) :
    ∃ discoveryMode manualAddresses,
      readDiscovery sdk (.map entries) config
        = .ok { config with discoveryMode, manualAddresses } ∧
      (∀ address ∈ manualAddresses, IsI2cAddress address) ∧
      manualAddresses.Nodup ∧
      (discoveryMode = .manual ↔ manualAddresses ≠ []) := by
  rcases Member.child_present h with ⟨-, hnot⟩ | ⟨node, hnode, haccepts⟩
  · cases hnot
  · obtain ⟨fields, rfl, -, hmembers, hwhens⟩ := Object.accepts_iff.mp haccepts
    have hmode := hmembers (.field ProviderSchema.mode) (by simp)
    have hlist := hmembers
      (.ofScalars "addresses" false ProviderSchema.manualAddress 1 true)
      (by simp)
    obtain ⟨text, hread, hvalue⟩ := read_value hsdk hmode (by simp)
    have hresult : ∀ mode, parseDiscoveryMode text = .ok mode →
        readDiscovery sdk (.map entries) config
          = .ok { config with
              discoveryMode := mode
              manualAddresses := (elements (lookup fields "addresses")).filterMap
                fun node => sdk.read .i2cAddress (some node) } := by
      intro mode hparse
      simp only [readDiscovery, subscript_map, hnode]
      change (parseOr parseDiscoveryMode config.discoveryMode
        (sdk.read .string (lookup fields "mode")) >>= _) = _
      rw [hread, hnone]
      change (parseDiscoveryMode text >>= _) = _
      rw [hparse]
      rfl
    have hmanual := hwhens { key := "mode", value := "manual"
                             require := ["addresses"] } (by simp)
    have hscan := hwhens { key := "mode", value := "scan"
                           forbid := ["addresses"] } (by simp)
    have hlisted : ∀ items, lookup fields "addresses" = some (.sequence items) →
        (∀ node ∈ items, ProviderSchema.manualAddress.kind.accepts
          sdk.toResolver node = true) → 1 ≤ items.length →
        (elements (lookup fields "addresses")).filterMap
          (fun node => sdk.read .i2cAddress (some node)) ≠ [] := by
      intro items hitems hall hlen
      obtain ⟨first, rest, rfl⟩ := List.exists_cons_of_length_pos hlen
      obtain ⟨address, haddress, -⟩ :=
        Kind.accepts_iff.mp (hall first (by simp))
      have haddress : sdk.read .i2cAddress (some first) = some address :=
        haddress
      simp [hitems, elements, haddress]
    have hvalue : text = "scan" ∨ text = "manual" := by
      simpa using hvalue
    have hrange : ∀ address ∈ (elements (lookup fields "addresses")).filterMap
        (fun node => sdk.read .i2cAddress (some node)),
        IsI2cAddress address := by
      intro address haddress
      obtain ⟨node, -, hread⟩ := List.mem_filterMap.mp haddress
      exact hsdk.address (some node) address hread
    rcases hvalue with rfl | rfl
    · -- Scan: the list must be absent.
      have habsent := (When.of_read hscan hread).2 "addresses" (by simp)
      refine ⟨.scan, _, hresult .scan rfl, ?_⟩
      rw [elements_absent habsent]
      simp
    · obtain ⟨list, hpresent⟩ := (When.of_read hmanual hread).1 "addresses" (by simp)
      rcases Member.ofScalars_present hlist with
        ⟨habsent, -⟩ | ⟨items, hitems, hlen, hall, hnodup⟩
      · rw [habsent] at hpresent
        cases hpresent
      · refine ⟨.manual, _, hresult .manual rfl, hrange, ?_, ?_⟩
        · rw [hitems]
          exact hnodup rfl
        · simpa using hlisted items hitems hall hlen

/-- What a device row is read as. -/
structure ReadAs (sdk : ConfigSdk) (fields : List (Yaml × Yaml))
    (spec : DeviceSpec) : Prop where
  id : sdk.read .string (lookup fields "id") = some spec.id
  address : sdk.read .i2cAddress (lookup fields "address") = some spec.address
  valid : spec.Valid
  identifier : IsIdentifier spec.id
  label : spec.label ≠ ""

theorem readDevice_ok (hsdk : sdk.Lawful) {row : Yaml}
    (h : ProviderSchema.device.accepts sdk.toResolver row = true) :
    ∃ fields spec, row = .map fields ∧ readDevice sdk row = .ok spec ∧
      ReadAs sdk fields spec := by
  obtain ⟨fields, rfl, -, hmembers, hwhens⟩ := Object.accepts_iff.mp h
  have hid := hmembers (.field ProviderSchema.id) (by simp)
  have htype := hmembers (.field ProviderSchema.type) (by simp)
  have hlabel := hmembers (.field ProviderSchema.label) (by simp)
  have haddress := hmembers (.field ProviderSchema.address) (by simp)
  have hwatchdog := readInt_range hsdk
    (hmembers (.field ProviderSchema.commandWatchdogMs) (by simp)) (by decide)
    (by decide) (d := 0) (by decide)
  have hrlht := hwhens { key := "type", value := "rlht"
                         forbid := ["encoders"] } (by simp)
  obtain ⟨id, hidRead, -⟩ := Member.required_read hsdk.toLawful hid rfl
  have hidRead : sdk.read .string (lookup fields "id") = some id := hidRead
  obtain ⟨address, haddressRead, -⟩ :=
    Member.required_read hsdk.toLawful haddress rfl
  have haddressRead : sdk.read .i2cAddress (lookup fields "address")
    = some address := haddressRead
  obtain ⟨text, htypeRead, hvalue⟩ := read_value hsdk htype (by simp)
  obtain ⟨type, hparse, hsame⟩ : ∃ type : DeviceType,
      parseDeviceType text = .ok type ∧ text = type.toString := by
    have hvalue : text = "rlht" ∨ text = "dcmt" := by simpa using hvalue
    rcases hvalue with rfl | rfl
    · exact ⟨.rlht, rfl, rfl⟩
    · exact ⟨.dcmt, rfl, rfl⟩
  have hidentifier := read_identifier hsdk hid hidRead
  let spec : DeviceSpec :=
    { id, type, address
      label := (sdk.read .string (lookup fields "label")).getD id
      commandWatchdogMs := ((sdk.read .int64
        (lookup fields "command_watchdog_ms")).map castInt).getD 0
      encoders := (sdk.read .bool (lookup fields "encoders")).getD true }
  refine ⟨fields, spec, rfl, ?_, hidRead, haddressRead, ?_, hidentifier, ?_⟩
  · simp only [readDevice, readKey_map]
    change (parseOr parseDeviceType .rlht
      (sdk.read .string (lookup fields "type")) >>= _) = _
    rw [htypeRead]
    change (parseDeviceType text >>= _) = _
    rw [hparse, hidRead, haddressRead]
    rfl
  · refine ⟨hsdk.address _ _ haddressRead, hwatchdog, ?_⟩
    -- An RLHT may not have the key, so the default stands.
    intro hrlhtType
    obtain rfl : type = .rlht := hrlhtType
    subst hsame
    have habsent := (When.of_read hrlht htypeRead).2 "encoders" (by simp)
    show (sdk.read .bool (lookup fields "encoders")).getD true = true
    rw [sdk.read_lookup hsdk.toLawful, habsent, hsdk.undefined]
    rfl
  · show (sdk.read .string (lookup fields "label")).getD id ≠ ""
    cases hread : sdk.read .string (lookup fields "label") with
    | none =>
        intro hempty
        have hempty : id = "" := hempty
        have hlength := hidentifier.1
        rw [hempty] at hlength
        simp at hlength
    | some label => exact read_nonEmpty hsdk hlabel hread

/-- The rows are read one by one, and what must be unique of them is what
the schema compares. -/
theorem readDevices_ok (hsdk : sdk.Lawful) {rows : List Yaml}
    (h : ∀ row ∈ rows, ProviderSchema.device.accepts sdk.toResolver row
      = true) :
    ∃ specs, readDevices sdk rows = .ok specs ∧
      (∀ spec ∈ specs, spec.Valid ∧ IsIdentifier spec.id ∧ spec.label ≠ "") ∧
      specs.map (·.id) = ProviderSchema.id.column sdk.toResolver rows ∧
      specs.map (·.address)
        = ProviderSchema.address.column sdk.toResolver rows := by
  induction rows with
  | nil => exact ⟨[], rfl, by simp, rfl, rfl⟩
  | cons row rest ih =>
      obtain ⟨specs, hrest, hall, hids, haddresses⟩ :=
        ih fun row hrow => h row (List.mem_cons_of_mem _ hrow)
      obtain ⟨fields, spec, rfl, hread, hspec⟩ :=
        readDevice_ok hsdk (h row List.mem_cons_self)
      refine ⟨spec :: specs, ?_, ?_, ?_, ?_⟩
      · rw [readDevices, hread]
        change (readDevices sdk rest >>= _) = _
        rw [hrest]
        rfl
      · intro s hs
        rcases List.mem_cons.mp hs with rfl | hs
        · exact ⟨hspec.valid, hspec.identifier, hspec.label⟩
        · exact hall s hs
      · rw [List.map_cons, hids]
        exact (Field.column_cons (f := ProviderSchema.id) hspec.id rest).symm
      · rw [List.map_cons, haddresses]
        exact (Field.column_cons (f := ProviderSchema.address) hspec.address
          rest).symm

end Sections

/-! ## The whole file -/

theorem readConfig_ok (hsdk : sdk.Lawful) {root : Yaml}
    (h : providerSchema.accepts sdk.toResolver root = true) :
    ∃ config, readConfig sdk root = .ok config ∧ config.Loadable := by
  obtain ⟨entries, rfl, -, hmembers, -⟩ := Object.accepts_iff.mp h
  obtain ⟨providerName, outputsOnStartup, hprovider, hname⟩ :=
    readProvider_ok hsdk
      (hmembers (.child "provider" false ProviderSchema.provider) (by simp))
  obtain ⟨busPath, queryDelayUs, timeoutMs, retryCount, maxBusHz, hhardware,
      hpath, hdelay, htimeout, hretry, hclock⟩ :=
    readHardware_ok hsdk
      (hmembers (.child "hardware" true ProviderSchema.hardware) (by simp))
      providerName outputsOnStartup
  obtain ⟨discoveryMode, manualAddresses, hdiscovery, hrange, hnodup,
      hlisted⟩ :=
    readDiscovery_ok hsdk
      (hmembers (.child "discovery" true ProviderSchema.discovery) (by simp))
      { providerName, outputsOnStartup, busPath, queryDelayUs, timeoutMs
        retryCount, maxBusHz } rfl
  obtain ⟨specs, hread, hspecs, hids, haddresses⟩ : ∃ specs,
      readDevices sdk (elements (lookup entries "devices")) = .ok specs ∧
      (∀ spec ∈ specs, spec.Valid ∧ IsIdentifier spec.id ∧ spec.label ≠ "") ∧
      (specs.map (·.id)).Nodup ∧ (specs.map (·.address)).Nodup := by
    rcases Member.ofObjects_present
      (hmembers (.ofObjects "devices" false ProviderSchema.device) (by simp))
      with ⟨habsent, -⟩ | ⟨rows, hrows, hall, hunique⟩
    · rw [elements_absent habsent]
      exact ⟨[], rfl, by simp, List.nodup_nil, List.nodup_nil⟩
    · rw [hrows]
      obtain ⟨specs, hread, hspecs, hids, haddresses⟩ :=
        readDevices_ok hsdk hall
      refine ⟨specs, hread, hspecs, ?_, ?_⟩
      · rw [hids]
        exact hunique ProviderSchema.id (by
          simp [ProviderSchema.device, Object.uniqueFields, ProviderSchema.id])
      · rw [haddresses]
        exact hunique ProviderSchema.address (by
          simp [ProviderSchema.device, Object.uniqueFields,
            ProviderSchema.address])
  refine ⟨{ providerName, outputsOnStartup, busPath, queryDelayUs, timeoutMs
            retryCount, maxBusHz, discoveryMode, manualAddresses
            devices := specs }, ?_, ?_⟩
  · rw [readConfig, hprovider]
    change (readHardware sdk _ _ >>= _) = _
    rw [hhardware]
    change (readDiscovery sdk _ _ >>= _) = _
    rw [hdiscovery]
    change (readDevices sdk (elements (lookup entries "devices")) >>= _) = _
    rw [hread]
    rfl
  · exact
      { ids := hids
        addresses := haddresses
        busPath := hpath
        queryDelay := hdelay
        timeout := htimeout
        retryCount := hretry
        devices := fun spec hspec => (hspecs spec hspec).1
        manual := hrange
        manualDistinct := hnodup
        name := hname
        clock := hclock
        listed := hlisted
        identifiers := fun spec hspec => (hspecs spec hspec).2.1
        labels := fun spec hspec => (hspecs spec hspec).2.2 }

end BreadProvider
