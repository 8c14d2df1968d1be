import Mathlib.Data.List.AList
import Mathlib.Data.List.Sort
import BreadProvider.Contracts
import BreadProvider.Config

/-!
# Provider — inventory

Version compatibility, the capability sets and the assembly of the
inventory from probe records. `std::sort` on `(address, type_id)` is an
insertion sort on the same order; the two agree wherever no two probes
share both.
-/

namespace BreadProvider

/-- `std::map<std::string, std::string>`. -/
abbrev StringMap := AList fun _ : String => String

namespace Inventory

def kProviderName : String := "anolis-provider-bread"
def kRlhtThermocoupleMin : Nat := 1
def kRlhtThermocoupleMax : Nat := 2

/-! ## Compatibility -/

inductive ProbeStatus where
  | supported
  | unsupportedType
  | versionReadFailed
  | incompatibleCrumbsVersion
  | incompatibleModuleMajor
  | typeMismatch
  deriving DecidableEq, Repr

def ProbeStatus.toString : ProbeStatus → String
  | .supported => "supported"
  | .unsupportedType => "unsupported_type"
  | .versionReadFailed => "version_read_failed"
  | .incompatibleCrumbsVersion => "incompatible_crumbs_version"
  | .incompatibleModuleMajor => "incompatible_module_major"
  | .typeMismatch => "type_mismatch"

structure ModuleVersion where
  crumbsVersion : UInt16 := 0
  moduleMajor : UInt8 := 0
  moduleMinor : UInt8 := 0
  modulePatch : UInt8 := 0
  deriving DecidableEq, Repr

def expectedModuleVersion (c : Contracts) (typeId : UInt8) : UInt8 × UInt8 :=
  if typeId = c.rlht.typeId then
    (c.rlht.moduleVerMajor, c.rlht.moduleVerMinor)
  else if typeId = c.dcmt.typeId then
    (c.dcmt.moduleVerMajor, c.dcmt.moduleVerMinor)
  else (0, 0)

def tryParseBreadType (c : Contracts) (typeId : UInt8) : Option DeviceType :=
  if typeId = c.rlht.typeId then some .rlht
  else if typeId = c.dcmt.typeId then some .dcmt
  else none

def breadTypeId (c : Contracts) : DeviceType → UInt8
  | .rlht => c.rlht.typeId
  | .dcmt => c.dcmt.typeId

@[simp] theorem tryParseBreadType_breadTypeId (c : Contracts)
    (type : DeviceType) :
    tryParseBreadType c (breadTypeId c type) = some type := by
  cases type with
  | rlht => simp [tryParseBreadType, breadTypeId]
  | dcmt => simp [tryParseBreadType, breadTypeId, c.typeIdsDistinct.symm]

def breadContractName : DeviceType → String
  | .rlht => "rlht"
  | .dcmt => "dcmt"

def providerTypeId : DeviceType → String
  | .rlht => "bread.rlht"
  | .dcmt => "bread.dcmt"

/-- The status and the `detail` text. -/
def evaluateModuleVersion (c : Contracts) (version : ModuleVersion)
    (expectedMajor expectedMinor : UInt8) : ProbeStatus × String :=
  if !c.bread.checkModuleCompat version.moduleMajor version.moduleMinor
      expectedMajor expectedMinor then
    (.incompatibleModuleMajor,
      "module major mismatch: expected " ++ toString expectedMajor.toNat
        ++ " got " ++ toString version.moduleMajor.toNat)
  else if version.moduleMinor < expectedMinor then
    (.supported,
      "compatible: module minor " ++ toString version.moduleMinor.toNat
        ++ " is older than " ++ toString expectedMinor.toNat
        ++ ", optional features follow the caps flags")
  else (.supported, "compatible")

/-- The status and the `detail` text. -/
def evaluateVersionCompatibility (c : Contracts) (typeId : UInt8)
    (version : ModuleVersion) : ProbeStatus × String :=
  let expected := expectedModuleVersion c typeId
  if expected.1 = 0 then
    (.unsupportedType, "unsupported BREAD type id")
  else if !c.bread.checkCrumbsCompat version.crumbsVersion then
    (.incompatibleCrumbsVersion,
      "crumbs version " ++ toString version.crumbsVersion.toNat
        ++ " is below minimum")
  else evaluateModuleVersion c version expected.1 expected.2

/-! ## Records -/

inductive InventorySource where
  | configSeeded
  | manual
  | discovered
  deriving DecidableEq, Repr

def InventorySource.toString : InventorySource → String
  | .configSeeded => "config_seeded"
  | .manual => "manual"
  | .discovered => "discovered"

inductive CapabilitySource where
  | seeded
  | queried
  | baselineFallback
  deriving DecidableEq, Repr

def CapabilitySource.toString : CapabilitySource → String
  | .seeded => "seeded"
  | .queried => "queried"
  | .baselineFallback => "baseline_fallback"

structure CapabilityProfile where
  schema : UInt8 := 0
  level : UInt8 := 0
  flags : UInt32 := 0
  source : CapabilitySource := .seeded
  deriving DecidableEq, Repr

structure ProbeRecord where
  address : Int := 0
  typeId : UInt8 := 0
  status : ProbeStatus := .unsupportedType
  version : ModuleVersion := {}
  capabilityProfile : CapabilityProfile := {}
  detail : String := ""
  deriving DecidableEq, Repr

structure InventoryDevice where
  descriptor : Descriptor
  capabilities : CapabilitySet
  type : DeviceType
  address : Int
  source : InventorySource
  expected : Bool
  version : ModuleVersion
  capabilityProfile : CapabilityProfile
  commandWatchdogMs : Int := 0
  encoders : Bool := true
  deriving DecidableEq

/-- `descriptor.device_id()`. -/
def InventoryDevice.id (device : InventoryDevice) : String :=
  device.descriptor.deviceId

structure InventoryBuildResult where
  supportedDevices : List InventoryDevice
  unsupportedProbes : List ProbeRecord
  missingExpectedIds : List String
  missingExpectedDetails : StringMap

/-! ## Capability sets -/

/-- `(flags & mask) != 0`. -/
def hasFlag (flags mask : UInt32) : Bool := flags &&& mask != 0

/-- A required argument. -/
def arg (name : String) (type : ValueType) : ArgSpec :=
  { name, type, required := true }

def doubleArg (name : String) (lo hi : ℚ) : ArgSpec :=
  { arg name .double with minDouble := some lo, maxDouble := some hi }

def int64Arg (name : String) (lo hi : Int) : ArgSpec :=
  { arg name .int64 with minInt64 := some lo, maxInt64 := some hi }

def uint64Arg (name : String) (lo hi : Nat) : ArgSpec :=
  { arg name .uint64 with minUint64 := some lo, maxUint64 := some hi }

def signal (signalId : String) (valueType : ValueType) : SignalSpec :=
  { signalId, name := signalId, valueType }

/-- `add_function` under its flag test. -/
def functionIf (offered : Bool) (functionId : Nat) (name : String)
    (args : List ArgSpec) : List FunctionSpec :=
  if offered then [{ functionId, name, args }] else []

@[simp] theorem mem_functionIf {offered : Bool} {functionId : Nat}
    {name : String} {args : List ArgSpec} {f : FunctionSpec} :
    f ∈ functionIf offered functionId name args
      ↔ offered = true ∧ f = { functionId, name, args } := by
  unfold functionIf
  split <;> simp_all

def rlhtFunctions (c : Contracts) (flags : UInt32) : List FunctionSpec :=
  functionIf (hasFlag flags c.rlht.capModeControl) 1 "set_mode"
      [{ arg "mode" .string with
          allowedValues := ["closed_loop", "open_loop"] }]
    ++ functionIf (hasFlag flags c.rlht.capSetpointControl) 2 "set_setpoints"
      [doubleArg "setpoint1_c" (-32768 / 10) (32767 / 10),
        doubleArg "setpoint2_c" (-32768 / 10) (32767 / 10)]
    ++ functionIf (hasFlag flags c.rlht.capPidTuning) 3 "set_pid_x10"
      [uint64Arg "kp1_x10" 0 255, uint64Arg "ki1_x10" 0 255,
        uint64Arg "kd1_x10" 0 255, uint64Arg "kp2_x10" 0 255,
        uint64Arg "ki2_x10" 0 255, uint64Arg "kd2_x10" 0 255]
    ++ functionIf (hasFlag flags c.rlht.capPeriodControl) 4 "set_periods_ms"
      [uint64Arg "period1_ms" c.rlht.periodMinMs c.rlht.periodMaxMs,
        uint64Arg "period2_ms" c.rlht.periodMinMs c.rlht.periodMaxMs]
    ++ functionIf (hasFlag flags c.rlht.capTcSelect) 5 "set_tc_select"
      [uint64Arg "channel1_thermocouple" kRlhtThermocoupleMin
          kRlhtThermocoupleMax,
        uint64Arg "channel2_thermocouple" kRlhtThermocoupleMin
          kRlhtThermocoupleMax]
    ++ functionIf (hasFlag flags c.rlht.capOpenDutyControl) 6
      "set_open_duty_pct"
      [uint64Arg "duty1_pct" 0 100, uint64Arg "duty2_pct" 0 100]
    ++ functionIf (hasFlag flags c.rlht.capCmdWatchdog
        && hasFlag flags c.rlht.capClearWatchdogTrip) 7
      "clear_watchdog_trip" []

def rlhtSignals (c : Contracts) (flags : UInt32) : List SignalSpec :=
  [signal "mode" .string, signal "t1_c" .double, signal "t2_c" .double,
    signal "setpoint1_c" .double, signal "setpoint2_c" .double,
    signal "period1_ms" .uint64, signal "period2_ms" .uint64,
    signal "on1_ms" .uint64, signal "on2_ms" .uint64,
    signal "channel1_thermocouple" .uint64,
    signal "channel2_thermocouple" .uint64,
    signal "relay1_on" .bool, signal "relay2_on" .bool,
    signal "estop" .bool]
    ++ if hasFlag flags c.rlht.capEstopCount then
        [signal "estop_count" .uint64] else []

def buildRlhtCapabilities (c : Contracts) (flags : UInt32) : CapabilitySet :=
  { functions := rlhtFunctions c flags, signals := rlhtSignals c flags }

/-- `add_dcmt_pid_function`. -/
def dcmtPidFunction (offered : Bool) (functionId : Nat) (name : String) :
    List FunctionSpec :=
  functionIf offered functionId name
    [uint64Arg "kp1_x1000" 0 65535, uint64Arg "ki1_x1000" 0 65535,
      uint64Arg "kd1_x1000" 0 65535, uint64Arg "kp2_x1000" 0 65535,
      uint64Arg "ki2_x1000" 0 65535, uint64Arg "kd2_x1000" 0 65535]

/-- The modes `set_mode` lists as allowed. -/
def dcmtModes (c : Contracts) (flags : UInt32) : List String :=
  ["open_loop"]
    ++ (if hasFlag flags c.dcmt.capClosedLoopPosition then
        ["closed_position"] else [])
    ++ if hasFlag flags c.dcmt.capClosedLoopSpeed then
        ["closed_speed"] else []

def dcmtFunctions (c : Contracts) (flags : UInt32) : List FunctionSpec :=
  functionIf (hasFlag flags c.dcmt.capOpenLoopControl) 1 "set_open_loop"
      [int64Arg "motor1_pwm" (-255) 255, int64Arg "motor2_pwm" (-255) 255]
    ++ functionIf (hasFlag flags c.dcmt.capBrakeControl) 2 "set_brake"
      [arg "motor1_brake" .bool, arg "motor2_brake" .bool]
    ++ functionIf (hasFlag flags (c.dcmt.capOpenLoopControl
        ||| c.dcmt.capClosedLoopPosition ||| c.dcmt.capClosedLoopSpeed)) 3
      "set_mode"
      [{ arg "mode" .string with allowedValues := dcmtModes c flags }]
    ++ functionIf (hasFlag flags (c.dcmt.capClosedLoopPosition
        ||| c.dcmt.capClosedLoopSpeed)) 4 "set_setpoint"
      [int64Arg "motor1_target" (-32768) 32767,
        int64Arg "motor2_target" (-32768) 32767]
    ++ dcmtPidFunction (hasFlag flags c.dcmt.capPidTuning) 5 "set_pid_x1000"
    ++ dcmtPidFunction (hasFlag flags c.dcmt.capPidTuning
        && hasFlag flags c.dcmt.capClosedLoopSpeed) 7 "set_speed_pid_x1000"
    ++ functionIf (hasFlag flags c.dcmt.capCmdWatchdog
        && hasFlag flags c.dcmt.capClearWatchdogTrip) 6
      "clear_watchdog_trip" []

def dcmtSignals : List SignalSpec :=
  [signal "mode" .string, signal "motor1_target" .int64,
    signal "motor2_target" .int64, signal "motor1_value" .int64,
    signal "motor2_value" .int64, signal "motor1_brake" .bool,
    signal "motor2_brake" .bool, signal "estop" .bool,
    signal "estop_count" .uint64]

def buildDcmtCapabilities (c : Contracts) (flags : UInt32) : CapabilitySet :=
  { functions := dcmtFunctions c flags, signals := dcmtSignals }

def buildCapabilities (c : Contracts) (type : DeviceType) (flags : UInt32) :
    CapabilitySet :=
  match type with
  | .rlht => buildRlhtCapabilities c flags
  | .dcmt => buildDcmtCapabilities c flags

/-! ## Capability profiles -/

def makeBaselineCapabilityProfile (c : Contracts) (type : DeviceType) :
    CapabilityProfile :=
  match type with
  | .rlht =>
      { schema := c.bread.capsSchemaV1, source := .baselineFallback,
        level := c.rlht.capLevel1, flags := c.rlht.capBaselineFlags }
  | .dcmt =>
      { schema := c.bread.capsSchemaV1, source := .baselineFallback,
        level := c.dcmt.capLevel1, flags := c.dcmt.capBaselineFlags }

def makeSeededCapabilityProfile (c : Contracts) (type : DeviceType) :
    CapabilityProfile :=
  match type with
  | .rlht =>
      { schema := c.bread.capsSchemaV1, source := .seeded,
        level := c.rlht.capLevel1, flags := c.rlht.capBaselineFlags }
  | .dcmt =>
      { schema := c.bread.capsSchemaV1, source := .seeded,
        level := c.dcmt.capLevel3,
        flags := c.dcmt.capOpenLoopControl ||| c.dcmt.capBrakeControl
          ||| c.dcmt.capClosedLoopPosition ||| c.dcmt.capClosedLoopSpeed
          ||| c.dcmt.capPidTuning ||| c.dcmt.capCmdWatchdog
          ||| c.dcmt.capClearWatchdogTrip }

/-- Zero fields take the value of `fallback`. -/
def CapabilityProfile.fillFrom (profile fallback : CapabilityProfile) :
    CapabilityProfile :=
  { profile with
    schema := if profile.schema = 0 then fallback.schema else profile.schema
    level := if profile.level = 0 then fallback.level else profile.level
    flags := if profile.flags = 0 then fallback.flags else profile.flags }

def normalizeCapabilityProfile (c : Contracts) (type : DeviceType)
    (profile : CapabilityProfile) : CapabilityProfile :=
  match profile.source with
  | .baselineFallback => profile.fillFrom (makeBaselineCapabilityProfile c type)
  | .seeded => profile.fillFrom (makeSeededCapabilityProfile c type)
  | .queried => profile

/-! ## Ids and labels -/

def typePrefix : DeviceType → String
  | .rlht => "rlht"
  | .dcmt => "dcmt"

def generatedLabel (type : DeviceType) (address : Int) : String :=
  (match type with
    | .rlht => "RLHT"
    | .dcmt => "DCMT") ++ " " ++ formatI2cAddress address

def generatedId (type : DeviceType) (index : Nat) : String :=
  typePrefix type ++ toString index

def formatModuleVersion (version : ModuleVersion) : String :=
  toString version.moduleMajor.toNat ++ "." ++
    toString version.moduleMinor.toNat ++ "." ++
    toString version.modulePatch.toNat

def formatCrumbsVersion (value : UInt16) : String :=
  toString (value.toNat / 10000) ++ "." ++
    toString (value.toNat / 100 % 100) ++ "." ++ toString (value.toNat % 100)

/-! ## Assembly -/

/-- The first configured entry at `address`. -/
def findConfigMatchByAddress (config : ProviderConfig) (address : Int) :
    Option (Fin config.devices.length) :=
  config.devices.findFinIdx? fun spec => spec.address == address

def buildDevice (c : Contracts) (config : ProviderConfig)
    (probe : ProbeRecord) (type : DeviceType) (source : InventorySource)
    (expected : Bool) (deviceId label : String) : InventoryDevice :=
  let profile := normalizeCapabilityProfile c type probe.capabilityProfile
  { type, source, expected
    address := probe.address
    version := probe.version
    capabilityProfile := profile
    capabilities := buildCapabilities c type profile.flags
    descriptor :=
      { deviceId, label
        providerName := kProviderName
        address := formatI2cAddress probe.address
        typeId := providerTypeId type
        typeVersion := toString (if probe.version.moduleMajor = 0 then 1
          else probe.version.moduleMajor.toNat)
        claims := [c.claimKey config.busPath (probe.address % 2 ^ 32).toNat]
        tags := [("family", "bread"), ("inventory", source.toString),
          ("contract", breadContractName type),
          ("caps_source", profile.source.toString),
          ("caps_level", toString profile.level.toNat),
          ("caps_flags", "0x" ++ upperHex 8 profile.flags.toNat),
          ("expected", if expected then "true" else "false"),
          ("compatibility", "supported"),
          ("crumbs_version", formatCrumbsVersion probe.version.crumbsVersion),
          ("module_version", formatModuleVersion probe.version)] } }

/-- The capability bits a DCMT without encoders loses. -/
def kEncoderCaps (c : Contracts) : UInt32 :=
  c.dcmt.capClosedLoopPosition ||| c.dcmt.capClosedLoopSpeed
    ||| c.dcmt.capPidTuning

/-- What a matched spec adds to its device. -/
def applySpec (c : Contracts) (spec : DeviceSpec) (type : DeviceType)
    (added : InventoryDevice) : InventoryDevice :=
  let added := { added with commandWatchdogMs := spec.commandWatchdogMs }
  if type = .dcmt ∧ spec.encoders = false then
    { added with
      encoders := false
      capabilities := buildCapabilities c type
        (added.capabilityProfile.flags &&& ~~~ kEncoderCaps c) }
  else added

section

variable (c : Contracts) (spec : DeviceSpec) (type : DeviceType)
  (d : InventoryDevice)

@[simp] theorem applySpec_id : (applySpec c spec type d).id = d.id := by
  unfold applySpec
  dsimp only
  split <;> rfl

@[simp] theorem applySpec_address :
    (applySpec c spec type d).address = d.address := by
  unfold applySpec
  dsimp only
  split <;> rfl

@[simp] theorem applySpec_type :
    (applySpec c spec type d).type = d.type := by
  unfold applySpec
  dsimp only
  split <;> rfl

@[simp] theorem applySpec_expected :
    (applySpec c spec type d).expected = d.expected := by
  unfold applySpec
  dsimp only
  split <;> rfl

@[simp] theorem applySpec_commandWatchdogMs :
    (applySpec c spec type d).commandWatchdogMs
      = spec.commandWatchdogMs := by
  unfold applySpec
  dsimp only
  split <;> rfl

end

/-- The loop state over the sorted probes. -/
structure BuildState (n : Nat) where
  supported : List InventoryDevice := []
  unsupported : List ProbeRecord := []
  matched : Fin n → Bool := fun _ => false
  rlhtIndex : Nat := 0
  dcmtIndex : Nat := 0

namespace BuildState

variable {n : Nat}

/-- `*type_counter`. -/
def counter (st : BuildState n) : DeviceType → Nat
  | .rlht => st.rlhtIndex
  | .dcmt => st.dcmtIndex

def bump (st : BuildState n) : DeviceType → BuildState n
  | .rlht => { st with rlhtIndex := st.rlhtIndex + 1 }
  | .dcmt => { st with dcmtIndex := st.dcmtIndex + 1 }

def exclude (st : BuildState n) (probe : ProbeRecord) : BuildState n :=
  { st with unsupported := st.unsupported ++ [probe] }

def accept (st : BuildState n) (device : InventoryDevice) : BuildState n :=
  { st with supported := st.supported ++ [device] }

def setMatched (st : BuildState n) (i : Fin n) : BuildState n :=
  { st with matched := fun j => decide (j = i) || st.matched j }

end BuildState

/-- A probe whose type byte does not parse, as it is excluded. -/
def unparsable (probe : ProbeRecord) : ProbeRecord :=
  { probe with
    status := .unsupportedType
    detail := if probe.detail = "" then "unsupported BREAD type id"
      else probe.detail }

/-- A probe of another type than its spec's, as it is excluded. -/
def mismatched (spec : DeviceSpec) (type : DeviceType) (probe : ProbeRecord) :
    ProbeRecord :=
  { probe with
    status := .typeMismatch
    detail := "configured type '" ++ spec.type.toString
      ++ "' does not match probed type '" ++ type.toString ++ "'" }

/-- The device a probe at a configured address becomes. -/
def matchedDevice (c : Contracts) (config : ProviderConfig)
    (source : InventorySource) (spec : DeviceSpec) (type : DeviceType)
    (probe : ProbeRecord) : InventoryDevice :=
  applySpec c spec type <|
    buildDevice c config
      { probe with
        capabilityProfile :=
          normalizeCapabilityProfile c type probe.capabilityProfile }
      type source true spec.id
      (if spec.label = "" then generatedLabel type probe.address
        else spec.label)

/-- The device a probe at an address outside the config becomes. -/
def extraDevice (c : Contracts) (config : ProviderConfig)
    (source : InventorySource) (type : DeviceType) (index : Nat)
    (probe : ProbeRecord) : InventoryDevice :=
  buildDevice c config
    { probe with
      capabilityProfile :=
        normalizeCapabilityProfile c type probe.capabilityProfile }
    type source false (generatedId type index)
    (generatedLabel type probe.address)

/-- One iteration of the loop over the sorted probes. -/
def placeProbe (c : Contracts) (config : ProviderConfig)
    (source : InventorySource) (st : BuildState config.devices.length)
    (probe : ProbeRecord) : BuildState config.devices.length :=
  if probe.status ≠ .supported then st.exclude probe
  else
    match tryParseBreadType c probe.typeId with
    | none => st.exclude (unparsable probe)
    | some type =>
        match findConfigMatchByAddress config probe.address with
        | some i =>
            let spec := config.devices.get i
            if spec.type ≠ type then st.exclude (mismatched spec type probe)
            else
              ((st.setMatched i).bump type).accept
                (matchedDevice c config source spec type probe)
        | none =>
            (st.bump type).accept
              (extraDevice c config source type (st.counter type) probe)

/-- `std::tie(address, type_id)` order. -/
def ProbeRecord.before (a b : ProbeRecord) : Prop :=
  a.address < b.address ∨ a.address = b.address ∧ a.typeId ≤ b.typeId

instance : DecidableRel ProbeRecord.before := fun a b =>
  inferInstanceAs (Decidable
    (a.address < b.address ∨ a.address = b.address ∧ a.typeId ≤ b.typeId))

def sortProbes (probes : List ProbeRecord) : List ProbeRecord :=
  probes.insertionSort ProbeRecord.before

def placeProbes (c : Contracts) (config : ProviderConfig)
    (source : InventorySource) (sorted : List ProbeRecord) :
    BuildState config.devices.length :=
  sorted.foldl (placeProbe c config source) {}

/-- The specs no probe matched, in config order. -/
def missingSpecs (config : ProviderConfig)
    (matched : Fin config.devices.length → Bool) : List DeviceSpec :=
  ((List.finRange config.devices.length).filter fun i => !matched i).map
    fun i => config.devices.get i

def failureDetail (probe : ProbeRecord) : String :=
  "probe failed (" ++ probe.status.toString ++ "): " ++ probe.detail

/-- The first excluded probe at the spec's address says why it is missing. -/
def noteFailure (unsupported : List ProbeRecord) (details : StringMap)
    (spec : DeviceSpec) : StringMap :=
  match unsupported.find? fun probe => probe.address == spec.address with
  | some probe => details.insert spec.id (failureDetail probe)
  | none => details

def buildInventoryFromProbes (c : Contracts) (config : ProviderConfig)
    (probes : List ProbeRecord) (source : InventorySource) :
    InventoryBuildResult :=
  let st := placeProbes c config source (sortProbes probes)
  let missing := missingSpecs config st.matched
  { supportedDevices := st.supported
    unsupportedProbes := st.unsupported
    missingExpectedIds := missing.map (·.id)
    missingExpectedDetails := missing.foldl (noteFailure st.unsupported) ∅ }

/-! ## Config-seeded inventory -/

def seedProbe (c : Contracts) (spec : DeviceSpec) : ProbeRecord :=
  { address := spec.address
    typeId := breadTypeId c spec.type
    status := .supported
    version :=
      match spec.type with
      | .rlht =>
          { crumbsVersion := c.crumbs.version
            moduleMajor := c.rlht.moduleVerMajor
            moduleMinor := c.rlht.moduleVerMinor
            modulePatch := c.rlht.moduleVerPatch }
      | .dcmt =>
          { crumbsVersion := c.crumbs.version
            moduleMajor := c.dcmt.moduleVerMajor
            moduleMinor := c.dcmt.moduleVerMinor
            modulePatch := c.dcmt.moduleVerPatch }
    capabilityProfile := makeSeededCapabilityProfile c spec.type
    detail := "config-seeded" }

def buildSeedProbes (c : Contracts) (config : ProviderConfig) :
    List ProbeRecord :=
  config.devices.map (seedProbe c)

def buildSeedInventory (c : Contracts) (config : ProviderConfig) :
    List InventoryDevice :=
  (buildInventoryFromProbes c config (buildSeedProbes c config)
    .configSeeded).supportedDevices

/-! ## Lookups -/

def findDevice (devices : List InventoryDevice) (deviceId : String) :
    Option InventoryDevice :=
  devices.find? fun device => device.id == deviceId

def signalExists (device : InventoryDevice) (signalId : String) : Bool :=
  device.capabilities.signals.any fun signal => signal.signalId == signalId

def functionExists (device : InventoryDevice) (functionId : Nat)
    (functionName : String) : Bool :=
  device.capabilities.functions.any fun function =>
    (functionId != 0 && function.functionId == functionId)
      || (functionName != "" && function.name == functionName)

end Inventory

end BreadProvider
