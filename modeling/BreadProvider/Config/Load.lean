import BreadProvider.Config
import BreadProvider.Schema.Accepts

/-!
# Provider — loading the configuration

The declare-once schema and the loading of a config file against it:
`config_schema.cpp` and `provider_config.cpp`. The SDK reads the file,
validates it and resolves its scalars; what it makes of a scalar is a
parameter.

Left out: titles, descriptions and placeholders, the log lines, and the
absolute path of the file.
-/

namespace BreadProvider

open ConfigSchema Yaml

def kIdentifierPattern : String := "^[A-Za-z0-9_.-]{1,64}$"

/-! ## The schema -/

namespace ProviderSchema

def name : Field where
  key := "name"
  kind := .string (some kIdentifierPattern) false []
  default := some "anolis-provider-bread"

def outputsOnStartup : Field where
  key := "outputs_on_startup"
  kind := .string none false ["safe", "leave"]
  default := some "safe"

def provider : Object :=
  .closed [.field name, .field outputsOnStartup] []

def busPath : Field where
  key := "bus_path"
  kind := .string none true []
  required := true

def queryDelayUs : Field where
  key := "query_delay_us"
  kind := .integer (some 1) (some 2147483647)
  default := some (10000 : Int)

def timeoutMs : Field where
  key := "timeout_ms"
  kind := .integer (some 1) (some 2147483647)
  default := some (100 : Int)

def retryCount : Field where
  key := "retry_count"
  kind := .integer (some 0) (some 2147483647)
  default := some (2 : Int)

def maxBusHz : Field where
  key := "max_bus_hz"
  kind := .integer (some 1) (some 5000000)

def hardware : Object :=
  .closed [.field busPath, .field queryDelayUs, .field timeoutMs,
    .field retryCount, .field maxBusHz] []

def mode : Field where
  key := "mode"
  kind := .string none false ["scan", "manual"]
  required := true
  default := some "manual"

def manualAddress : Field where
  key := "address"
  kind := .i2cAddress

/-- Manual discovery makes the address list part of the contract; scan must
not carry one. -/
def discovery : Object :=
  .closed
    [.field mode, .ofScalars "addresses" false manualAddress 1 true]
    [{ key := "mode", value := "manual", require := ["addresses"] },
      { key := "mode", value := "scan", forbid := ["addresses"] }]

def id : Field where
  key := "id"
  kind := .string (some kIdentifierPattern) false []
  required := true
  unique := true

def type : Field where
  key := "type"
  kind := .string none false ["rlht", "dcmt"]
  required := true

def label : Field where
  key := "label"
  kind := .string none true []

def address : Field where
  key := "address"
  kind := .i2cAddress
  required := true
  unique := true

def commandWatchdogMs : Field where
  key := "command_watchdog_ms"
  kind := .integer (some 0) (some 65535)
  default := some (0 : Int)

def encoders : Field where
  key := "encoders"
  kind := .boolean
  default := some true

/-- RLHT has no motors, so no encoders. -/
def device : Object :=
  .closed
    [.field id, .field type, .field label, .field address,
      .field commandWatchdogMs, .field encoders]
    [{ key := "type", value := "rlht", forbid := ["encoders"] }]

/-- Every field of the schema. -/
def fields : List Field :=
  [name, outputsOnStartup, busPath, queryDelayUs, timeoutMs, retryCount,
    maxBusHz, mode, manualAddress, id, type, label, address,
    commandWatchdogMs, encoders]

end ProviderSchema

def providerSchema : Object :=
  .closed
    [.child "provider" false ProviderSchema.provider,
      .child "hardware" true ProviderSchema.hardware,
      .child "discovery" true ProviderSchema.discovery,
      .ofObjects "devices" false ProviderSchema.device] []

/-! ## Enumerations and their config texts -/

def DiscoveryMode.toString : DiscoveryMode → String
  | .scan => "scan"
  | .manual => "manual"

def OutputsOnStartup.toString : OutputsOnStartup → String
  | .safe => "safe"
  | .leave => "leave"

def parseDiscoveryMode (value : String) : Except String DiscoveryMode :=
  if value = "scan" then .ok .scan
  else if value = "manual" then .ok .manual
  else .error ("Invalid discovery.mode: '" ++ value ++ "'")

def parseOutputsOnStartup (value : String) : Except String OutputsOnStartup :=
  if value = "safe" then .ok .safe
  else if value = "leave" then .ok .leave
  else .error ("Invalid provider.outputs_on_startup: '" ++ value ++ "'")

def parseDeviceType (value : String) : Except String DeviceType :=
  if value = "rlht" then .ok .rlht
  else if value = "dcmt" then .ok .dcmt
  else .error ("Invalid devices[].type: '" ++ value ++ "'")

@[simp] theorem parseDiscoveryMode_toString (mode : DiscoveryMode) :
    parseDiscoveryMode mode.toString = .ok mode := by
  cases mode <;> rfl

@[simp] theorem parseOutputsOnStartup_toString (policy : OutputsOnStartup) :
    parseOutputsOnStartup policy.toString = .ok policy := by
  cases policy <;> rfl

@[simp] theorem parseDeviceType_toString (type : DeviceType) :
    parseDeviceType type.toString = .ok type := by
  cases type <;> rfl

/-! ## What the SDK does -/

structure ConfigSdk extends Resolver where
  /-- `YAML::LoadFile`; the error is the exception's text. -/
  loadFile : (path : String) → Except String Yaml
  validate : Object → Yaml → List String
  formatErrors : List String → String

/-- `[A-Za-z0-9_.-]`. -/
def isIdentifierChar (ch : Char) : Bool :=
  ch.isAlphanum || ch == '_' || ch == '.' || ch == '-'

/-- What the identifier pattern matches. -/
def IsIdentifier (text : String) : Prop :=
  1 ≤ text.length ∧ text.length ≤ 64 ∧
    text.toList.all isIdentifierChar = true

instance (text : String) : Decidable (IsIdentifier text) :=
  inferInstanceAs (Decidable (_ ∧ _ ∧ _))

/-- The validator finds nothing wrong exactly with what the schema accepts,
and resolves scalars as the typed helpers do. -/
structure ConfigSdk.Lawful (sdk : ConfigSdk) : Prop
    extends sdk.toResolver.Lawful where
  validate : ∀ schema node, sdk.validate schema node = []
    ↔ schema.accepts sdk.toResolver node = true
  identifier : ∀ text, sdk.matchesPattern kIdentifierPattern text = true
    ↔ IsIdentifier text

/-! ## Loading -/

/-- A device row without `encoders` if it is an RLHT's. -/
def dropEncoders : Yaml → Yaml
  | .map fields =>
      match lookup fields "encoders", lookup fields "type" with
      | some _, some (.scalar text _) =>
          if text ≠ "rlht" then .map fields
          else .map (remove "encoders" fields)
      | _, _ => .map fields
  | row => row

/-- The rows of a sequence without `encoders` on an RLHT. -/
def dropFromRows : Yaml → Yaml
  | .sequence rows => .sequence (rows.map dropEncoders)
  | node => node

def dropRlhtEncoders : Yaml → Yaml
  | .map entries => .map (adjust dropFromRows "devices" entries)
  | root => root

/-- `static_cast<int>`. -/
def castInt (n : Int) : Int := n.bmod (2 ^ 32)

/-- `static_cast<uint32_t>`. -/
def castUInt32 (n : Int) : Nat := (n % 2 ^ 32).toNat

/-- The elements of a node that is a sequence. -/
def elements : Option Yaml → List Yaml
  | some (.sequence items) => items
  | _ => []

section Load

variable (sdk : ConfigSdk)

/-- A typed helper applied to `node[key]`. -/
def readKey (t : Reading) (node : Option Yaml) (key : String) :
    Except String (Option t.Value) := do
  return sdk.read t (← subscript node key)

/-- Parse a value that was read; keep the default where there is none. -/
def parseOr {α : Type} (parse : String → Except String α) (default : α) :
    Option String → Except String α
  | none => .ok default
  | some value => parse value

def readProvider (root : Yaml) (config : ProviderConfig) :
    Except String ProviderConfig := do
  let provider ← subscript (some root) "provider"
  let name ← readKey sdk .string provider "name"
  let policy ← readKey sdk .string provider "outputs_on_startup"
  let outputsOnStartup ←
    parseOr parseOutputsOnStartup config.outputsOnStartup policy
  return { config with
    providerName := name.getD config.providerName
    outputsOnStartup }

def readHardware (root : Yaml) (config : ProviderConfig) :
    Except String ProviderConfig := do
  let hardware ← subscript (some root) "hardware"
  let busPath ← readKey sdk .string hardware "bus_path"
  let queryDelayUs ← readKey sdk .int64 hardware "query_delay_us"
  let timeoutMs ← readKey sdk .int64 hardware "timeout_ms"
  let retryCount ← readKey sdk .int64 hardware "retry_count"
  let maxBusHz ← readKey sdk .int64 hardware "max_bus_hz"
  return { config with
    busPath := busPath.getD config.busPath
    queryDelayUs := (queryDelayUs.map castInt).getD config.queryDelayUs
    timeoutMs := (timeoutMs.map castInt).getD config.timeoutMs
    retryCount := (retryCount.map castInt).getD config.retryCount
    maxBusHz := (maxBusHz.map castUInt32).or config.maxBusHz }

def readDiscovery (root : Yaml) (config : ProviderConfig) :
    Except String ProviderConfig := do
  let discovery ← subscript (some root) "discovery"
  let mode ← readKey sdk .string discovery "mode"
  let discoveryMode ← parseOr parseDiscoveryMode config.discoveryMode mode
  let addresses ← subscript discovery "addresses"
  return { config with
    discoveryMode
    manualAddresses := config.manualAddresses
      ++ (elements addresses).filterMap fun node =>
        sdk.read .i2cAddress (some node) }

/-- The label defaults to the id. -/
def readDevice (node : Yaml) : Except String DeviceSpec := do
  let id ← readKey sdk .string (some node) "id"
  let type ← parseOr parseDeviceType .rlht
    (← readKey sdk .string (some node) "type")
  let label ← readKey sdk .string (some node) "label"
  let address ← readKey sdk .i2cAddress (some node) "address"
  let watchdog ← readKey sdk .int64 (some node) "command_watchdog_ms"
  let encoders ← readKey sdk .bool (some node) "encoders"
  return { id := id.getD ""
           type
           label := label.getD (id.getD "")
           address := address.getD 0
           commandWatchdogMs := (watchdog.map castInt).getD 0
           encoders := encoders.getD true }

def readDevices : List Yaml → Except String (List DeviceSpec)
  | [] => return []
  | node :: rest => do
      let spec ← readDevice sdk node
      let specs ← readDevices rest
      return spec :: specs

/-- The typed extraction that follows validation. -/
def readConfig (root : Yaml) : Except String ProviderConfig := do
  let config ← readProvider sdk root {}
  let config ← readHardware sdk root config
  let config ← readDiscovery sdk root config
  let devices ← subscript (some root) "devices"
  let specs ← readDevices sdk (elements devices)
  return { config with devices := config.devices ++ specs }

/-- `load_config` once the file is parsed. -/
def loadRoot (path : String) (root : Yaml) : Except String ProviderConfig :=
  let root := dropRlhtEncoders root
  let errors := sdk.validate providerSchema root
  if errors ≠ [] then
    .error ("Invalid config '" ++ path ++ "':\n" ++ sdk.formatErrors errors)
  else readConfig sdk root

def loadConfig (path : String) : Except String ProviderConfig :=
  match sdk.loadFile path with
  | .error what =>
      .error ("Failed to parse config '" ++ path ++ "': " ++ what)
  | .ok root => loadRoot sdk path root

end Load

end BreadProvider
