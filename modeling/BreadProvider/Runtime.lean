import BreadProvider.Startup

/-!
# Provider — the runtime

Start-up, and the requests served after it: `runtime_state.cpp` and
`BreadProviderRuntime`.
-/

namespace BreadProvider

open Interaction Inventory

variable (c : Contracts)

/-! ## Start-up -/

namespace Runtime

/-- How long before the end of the budget discovery stops starting probes. -/
def kDiscoveryMargin : Int := 3000

def isMockMode (config : ProviderConfig) : Bool :=
  "mock://".isPrefixOf config.busPath

def buildStartupMessage (deviceCount unsupportedCount : Nat)
    (missingIds : List String) (inventoryMode : String) : String :=
  "BREAD discovery complete (" ++ inventoryMode ++ "): "
    ++ toString deviceCount ++ " device(s) active"
    ++ (if 0 < unsupportedCount then
        ", " ++ toString unsupportedCount ++ " unsupported" else "")
    ++ if missingIds.isEmpty then ""
      else ", " ++ toString missingIds.length ++ " expected device(s) missing"

/-- Started but not ready: every configured device is missing, and why. -/
def publishNotReady (state : RuntimeState) (reason : String) :
    Program ProviderInterface Unit :=
  let state := { state with
    ready := false
    startupMessage := reason
    inventoryMode := "unavailable"
    missingExpectedIds :=
      state.missingExpectedIds ++ state.config.devices.map (·.id)
    missingExpectedDetails := state.config.devices.foldl
      (fun details spec => details.insert spec.id reason)
      state.missingExpectedDetails }
  ProviderCall.publish state none none

def reset : Program ProviderInterface Unit :=
  ProviderCall.publish {} none none

/-- Drive every device safe, or leave all as they are. -/
def applyOutputsPolicy (session : Nat) (config : ProviderConfig) :
    List InventoryDevice → StringMap → Program ProviderInterface StringMap
  | [], metrics => return metrics
  | device :: rest, metrics =>
      if config.outputsOnStartup = .leave then
        applyOutputsPolicy session config rest (metrics.insert device.id "left")
      else do
        let result ← onSession session (SafeOutputs.drive c device)
        applyOutputsPolicy session config rest
          (metrics.insert device.id (SafeOutputs.toMetric result))

def armAll (session : Nat) :
    List InventoryDevice → Program ProviderInterface Unit
  | [] => return ()
  | device :: rest => do
      onSession session (Watchdog.armIfConfigured c device)
      armAll session rest

/-- Outputs, then watchdogs, then the keepalive: what both paths end with.
`state` is published with what the outputs policy recorded. -/
def finishStartup (session : Nat) (state : RuntimeState) :
    Program ProviderInterface Unit := do
  let safeOutputs ← applyOutputsPolicy c session state.config state.devices ∅
  armAll c session state.devices
  let armedAt ← ProviderCall.steadyNow
  ProviderCall.publish { state with safeOutputs } (some session)
    (some (.new c session state.devices Watchdog.kKeepaliveCap armedAt))

/-- The roster a discovery leaves. -/
def discoveredState (state : RuntimeState)
    (discovery : Startup.DiscoveryResult) : RuntimeState :=
  { state with
    devices := discovery.devices
    inventoryMode := discovery.inventoryMode
    unsupportedProbeCount := discovery.unsupportedProbes.length
    missingExpectedIds := discovery.missingExpectedIds
    missingExpectedDetails := discovery.missingExpectedDetails
    ready := true
    startupMessage := buildStartupMessage discovery.devices.length
      discovery.unsupportedProbes.length discovery.missingExpectedIds
      discovery.inventoryMode }

/-- The error is the text of an exception. -/
def initializeHardware (config : ProviderConfig) (deadline : Option Int) :
    Program ProviderInterface (Except String Unit) := do
  let hostRequirements ← ProviderCall.checkHost config
  let state : RuntimeState := { config, hostRequirements }
  if hostRequirements.exitCode ≠ 0 then
    publishNotReady state
      ("host requirements unmet: " ++ hostRequirements.unmet)
    return .ok ()
  else
    let session ← ProviderCall.makeSession
      (.linux config.busPath config.retryCount) (makeSessionOptions config)
    let status ← onSession session SessionCall.openSession
    if !status.ok then
      publishNotReady state ("failed to open CRUMBS bus '" ++ config.busPath
        ++ "': " ++ status.message)
      return .ok ()
    else
      match ← Startup.runDiscovery c session config deadline with
      | .error what => return .error what
      | .ok discovery =>
          finishStartup c session (discoveredState state discovery)
          return .ok ()

/-- The config-seeded roster of mock mode. -/
def seededState (config : ProviderConfig) : RuntimeState :=
  { config
    devices := buildSeedInventory c config
    inventoryMode := InventorySource.configSeeded.toString
    unsupportedProbeCount := 0
    ready := true
    startupMessage := "config-seeded inventory (mock mode)" }

/-- The canned bus of a roster, behind the fault injector if asked for. -/
def mockBus (config : ProviderConfig) (devices : List InventoryDevice) :
    Except String BusSpec :=
  let (busPath, faultQuery) := c.splitBusQuery config.busPath
  let canned := devices.map fun device =>
    (addressByte device.address, breadTypeId c device.type)
  (c.faultSpecAny faultQuery).map fun any =>
    if any then .faulty busPath canned faultQuery else .canned busPath canned

def initializeMock (config : ProviderConfig) :
    Program ProviderInterface (Except String Unit) := do
  let state := seededState c config
  match mockBus c config state.devices with
  | .error what => return .error what
  | .ok bus =>
      let session ← ProviderCall.makeSession bus (makeSessionOptions config)
      let status ← onSession session SessionCall.openSession
      if !status.ok then
        return .error ("failed to open mock CRUMBS bus '" ++ config.busPath
          ++ "': " ++ status.message)
      else
        finishStartup c session state
        return .ok ()

def initializeUntil (config : ProviderConfig) (deadline : Option Int) :
    Program ProviderInterface (Except String Unit) :=
  if isMockMode config then initializeMock c config
  else initializeHardware c config deadline

/-- When discovery stops probing; 0 means no limit. -/
def discoveryDeadline (budgetMs : Int) :
    Program ProviderInterface (Option Int) :=
  if 0 < budgetMs then do
    return some ((← ProviderCall.steadyNow)
      + milliseconds (max (budgetMs - kDiscoveryMargin) 0))
  else return none

/-- `initialize`. -/
def initializeRuntime (config : ProviderConfig) (budgetMs : Int) :
    Program ProviderInterface Unit := do
  let deadline ← discoveryDeadline budgetMs
  match ← initializeUntil c config deadline with
  | .ok () => return ()
  | .error what => publishNotReady { config } ("start-up failed: " ++ what)

end Runtime

/-! ## Requests -/

namespace BreadProviderRuntime

def driveAfterRecovery (session : Nat) (device : InventoryDevice)
    (config : ProviderConfig) : Program ProviderInterface Unit :=
  if config.outputsOnStartup = .safe then do
    let result ← onSession session (SafeOutputs.drive c device)
    ProviderCall.recordSafeOutputs device.id (SafeOutputs.toMetric result)
  else return ()

/-- What `handle_recovery` does once it has taken the signal. -/
def recover (session : Nat) (device : InventoryDevice)
    (config : ProviderConfig) : Program ProviderInterface Unit := do
  driveAfterRecovery c session device config
  onSession session (Watchdog.armIfConfigured c device)

def handleRecovery (session : Option Nat) (device : InventoryDevice)
    (config : ProviderConfig) : Program ProviderInterface Unit :=
  match session with
  | none => return ()
  | some session => do
      if ← onSession session
          (SessionCall.takeRecovery (addressByte device.address)) then
        recover c session device config
      else return ()

def noSession : String :=
  "no hardware session (provider not built with hardware support)"

def read (deviceId : String) (signalIds : List String) :
    Program ProviderInterface AdapterReadResult := do
  let state ← ProviderCall.snapshot
  match findDevice state.devices deviceId with
  | none => return readError .notFound "unknown device_id"
  | some device => do
      ProviderCall.noteContact deviceId
      match ← ProviderCall.session with
      | none => return readError .unavailable noSession
      | some session => do
          let br ← onSession session
            ((adapterFor c device.type).readSignals device signalIds)
          if br.ok then
            handleRecovery c (some session) device state.config
            return br
          else return br

/-- The two-stage composer: arguments first, then the session. -/
def callDevice (session : Option Nat) (device : InventoryDevice)
    (functionId : Nat) (args : ValueMap) :
    Program ProviderInterface AdapterCallResult :=
  match (adapterFor c device.type).buildFrame functionId args with
  | .error refused => return refused
  | .ok frame =>
      match session with
      | none => return callError .unavailable noSession
      | some session =>
          onSession session ((adapterFor c device.type).transmit device frame)

def call (deviceId : String) (functionId : Nat) (args : ValueMap) :
    Program ProviderInterface AdapterCallResult := do
  let state ← ProviderCall.snapshot
  match findDevice state.devices deviceId with
  | none => return callError .notFound "unknown device_id"
  | some device => do
      ProviderCall.noteContact deviceId
      if !functionExists device functionId "" then
        return callError .notFound "unknown function_id"
      else
        let br ← callDevice c (← ProviderCall.session) device functionId args
        if br.ok then
          handleRecovery c (← ProviderCall.session) device state.config
          return br
        else return br

/-! ## Health -/

structure DeviceHealthExtra where
  fault : Bool := false
  message : String := ""
  metrics : StringMap := ∅
  lastSeen : Bool := false

namespace DeviceHealthExtra

def metric (extra : DeviceHealthExtra) (key value : String) :
    DeviceHealthExtra :=
  { extra with metrics := extra.metrics.insert key value }

end DeviceHealthExtra

def boolText (b : Bool) : String := if b then "true" else "false"

def addModuleVersionMetric (device : InventoryDevice)
    (extra : DeviceHealthExtra) : DeviceHealthExtra :=
  if device.source = .configSeeded then extra
  else extra.metric "module_version" (formatModuleVersion device.version)

def addSafeOutputs (state : RuntimeState) (deviceId : String)
    (extra : DeviceHealthExtra) : DeviceHealthExtra :=
  match state.safeOutputs.lookup deviceId with
  | none => extra
  | some metric =>
      let extra := extra.metric "safe_outputs" metric
      if "not set".isPrefixOf metric then
        { extra with fault := true, message := "safe outputs " ++ metric }
      else extra

/-- What the snapshot alone says of a device. -/
def deviceExtra (state : RuntimeState) (device : InventoryDevice)
    (deviceId : String) : DeviceHealthExtra :=
  let extra : DeviceHealthExtra := {}
  let extra := extra.metric "address" device.descriptor.address
  let extra := extra.metric "type_id" device.descriptor.typeId
  let extra := addModuleVersionMetric device extra
  let extra := extra.metric "inventory" state.inventoryMode
  let extra := extra.metric "set_confirmation"
    (setConfirmation c device).toString
  addSafeOutputs state deviceId extra

def addStats (stats : AddressStats) (extra : DeviceHealthExtra) :
    DeviceHealthExtra :=
  let extra := extra.metric "io_ok" (toString stats.ok)
  let extra := extra.metric "io_failed" (toString stats.failed)
  let extra := extra.metric "io_retried_attempts"
    (toString stats.retriedAttempts)
  let extra := extra.metric "io_rejected" (toString stats.rejected)
  { extra with lastSeen := stats.hasSuccess }

def addWatchdog (wd : Watchdog.WatchdogStatus) (extra : DeviceHealthExtra) :
    DeviceHealthExtra :=
  let extra := extra.metric "watchdog_armed" (boolText wd.armed)
  let extra := extra.metric "watchdog_timeout_ms"
    (toString wd.timeoutMs.toNat)
  let extra := extra.metric "watchdog_tripped" (boolText wd.tripped)
  extra.metric "watchdog_trip_count" (toString wd.tripCount.toNat)

/-- The live query of an armed device not known to be failing. -/
def watchdogHealth (device : InventoryDevice) (extra : DeviceHealthExtra) :
    Program SessionInterface DeviceHealthExtra :=
  if Watchdog.Arms c device then do
    if ← SessionCall.lastOpFailed (addressByte device.address) then
      return extra
    else
      let (status, wd) ← Watchdog.queryStatus c device
      if status.ok then
        let _ ← Watchdog.rearmIfRebooted c device wd
        return addWatchdog wd extra
      else return extra
  else return extra

def sessionHealth (device : InventoryDevice) (extra : DeviceHealthExtra) :
    Program SessionInterface DeviceHealthExtra := do
  let stats ← SessionCall.statsFor (addressByte device.address)
  watchdogHealth c device (addStats stats extra)

def missingExtra (state : RuntimeState) (deviceId : String) :
    DeviceHealthExtra :=
  if deviceId ∈ state.missingExpectedIds then
    let extra : DeviceHealthExtra := {}
    let extra := extra.metric "inventory" state.inventoryMode
    let extra := extra.metric "missing" "true"
    match state.missingExpectedDetails.lookup deviceId with
    | none => extra
    | some detail => extra.metric "missing_detail" detail
  else {}

def deviceHealth (deviceId : String) :
    Program ProviderInterface DeviceHealthExtra := do
  let state ← ProviderCall.snapshot
  match findDevice state.devices deviceId with
  | none => return missingExtra state deviceId
  | some device => do
      let extra := deviceExtra c state device deviceId
      match ← ProviderCall.session with
      | none => return extra
      | some session => onSession session (sessionHealth c device extra)

end BreadProviderRuntime

/-! ## Serving -/

inductive Request where
  | read (deviceId : String) (signalIds : List String)
  | call (deviceId : String) (functionId : Nat) (args : ValueMap)
  | deviceHealth (deviceId : String)
  deriving DecidableEq

/-- The device a request names. -/
def Request.deviceId : Request → String
  | .read deviceId _ => deviceId
  | .call deviceId _ _ => deviceId
  | .deviceHealth deviceId => deviceId

inductive Response where
  | read (result : AdapterReadResult)
  | call (result : AdapterCallResult)
  | deviceHealth (extra : BreadProviderRuntime.DeviceHealthExtra)

def serve : Request → Program ProviderInterface Response
  | .read deviceId signalIds => do
      return .read (← BreadProviderRuntime.read c deviceId signalIds)
  | .call deviceId functionId args => do
      return .call (← BreadProviderRuntime.call c deviceId functionId args)
  | .deviceHealth deviceId => do
      return .deviceHealth (← BreadProviderRuntime.deviceHealth c deviceId)

end BreadProvider
