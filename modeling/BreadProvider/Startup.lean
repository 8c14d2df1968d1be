import BreadProvider.Provider

/-!
# Provider — startup discovery

Probing of candidate addresses and assembly of the runtime inventory. A
module that cannot be probed is a diagnostic; only a failed bus-wide scan
stops the start-up.
-/

namespace BreadProvider.Startup

open Interaction Inventory

variable (c : Contracts)

def kStaleReplyAttempts : Nat := 3

/-- The loop of `query_reply` with `more` attempts left. A reply to another
opcode is a stale staged reply and is asked for again. -/
def queryReplyFrom (address replyOpcode : UInt8) : (more : Nat) →
    SessionStatus × RawFrame → Program SessionInterface (SessionStatus × RawFrame)
  | 0, last => return last
  | more + 1, (_, frame) => do
      let (status, frame) ← SessionCall.queryRead address replyOpcode frame
      if !status.ok || frame.opcode == replyOpcode then return (status, frame)
      else queryReplyFrom address replyOpcode more (status, frame)

def queryReply (address replyOpcode : UInt8) :
    Program SessionInterface (SessionStatus × RawFrame) :=
  queryReplyFrom address replyOpcode kStaleReplyAttempts ({}, {})

/-- The opcode of the version reply. -/
def kVersionOpcode : UInt8 := 0x00

def probeFailed (address typeId : UInt8) (status : ProbeStatus)
    (detail : String) : ProbeRecord :=
  { address := address.toNat, typeId, status, detail }

/-- Capability discovery is best-effort: a failed read falls back to the
baseline of the type. -/
def probeCaps (address : UInt8) (type : DeviceType) :
    Program SessionInterface CapabilityProfile := do
  let (status, frame) ← queryReply address c.bread.opGetCaps
  if !status.ok || frame.opcode != c.bread.opGetCaps then
    return makeBaselineCapabilityProfile c type
  else
    match c.bread.capsParsePayload (payloadView frame.payload) with
    | some caps =>
        return { schema := caps.schema, level := caps.level
                 flags := caps.flags, source := .queried }
    | none => return makeBaselineCapabilityProfile c type

/-- A module whose version is known: compatibility, then capabilities. -/
def probeModule (address typeId : UInt8) (type : DeviceType)
    (version : ModuleVersion) : Program SessionInterface ProbeRecord := do
  let compat := evaluateVersionCompatibility c typeId version
  if compat.1 ≠ .supported then
    return { probeFailed address typeId compat.1 compat.2 with version }
  else
    let capabilityProfile ← probeCaps c address type
    return { address := address.toNat, typeId, status := .supported, version
             capabilityProfile, detail := "probed" }

/-- The family and version of a reply to the version query, or why there is
none. -/
def readVersion (address : UInt8) (frame : RawFrame) :
    Except ProbeRecord (DeviceType × ModuleVersion) :=
  if frame.opcode ≠ kVersionOpcode then
    .error (probeFailed address 0 .versionReadFailed
      ("unexpected opcode in version reply: " ++ hexByte frame.opcode))
  else
    match tryParseBreadType c frame.typeId with
    | none => .error (probeFailed address frame.typeId .unsupportedType
        ("unknown BREAD type_id: " ++ hexByte frame.typeId))
    | some type =>
        if frame.payload.length < 5 then
          .error (probeFailed address frame.typeId .versionReadFailed
            ("version payload too short (" ++ decimal frame.payload.length
              ++ " bytes)"))
        else
          match c.bread.parseVersion (payloadView frame.payload) with
          | none => .error (probeFailed address frame.typeId
              .versionReadFailed "failed to parse version payload")
          | some v =>
              .ok (type, { crumbsVersion := v.crumbsVersion
                           moduleMajor := v.moduleMajor
                           moduleMinor := v.moduleMinor
                           modulePatch := v.modulePatch })

def probeDevice (address : UInt8) : Program SessionInterface ProbeRecord := do
  let (status, frame) ← queryReply address kVersionOpcode
  if !status.ok then
    return probeFailed address 0 .versionReadFailed
      ("version query failed: " ++ status.message)
  else
    match readVersion c address frame with
    | .error record => return record
    | .ok (type, version) => probeModule c address frame.typeId type version

/-! ## Discovery -/

structure DiscoveryResult where
  devices : List InventoryDevice
  unsupportedProbes : List ProbeRecord
  missingExpectedIds : List String
  missingExpectedDetails : StringMap
  inventoryMode : String

/-- The clock is read only where there is a deadline. -/
def outOfTime : (deadline : Option Int) → Program ProviderInterface Bool
  | none => return false
  | some deadline => do return decide (deadline ≤ (← ProviderCall.steadyNow))

/-- Probe the candidates in order; what is reached after the deadline is
left unprobed. -/
def probeAll (session : Nat) (deadline : Option Int) : List Int →
    List ProbeRecord → List Int →
    Program ProviderInterface (List ProbeRecord × List Int)
  | [], probes, unprobed => return (probes, unprobed)
  | address :: rest, probes, unprobed => do
      if ← outOfTime deadline then
        probeAll session deadline rest probes (unprobed ++ [address])
      else
        let probe ← onSession session (probeDevice c (addressByte address))
        probeAll session deadline rest (probes ++ [probe]) unprobed

def notProbedDetail : String := "not probed: the start-up budget was spent"

/-- Say of every configured device left unprobed that it was. -/
def noteUnprobed (unprobed : List Int) (details : StringMap)
    (spec : DeviceSpec) : StringMap :=
  if spec.address ∈ unprobed then details.insert spec.id notProbedDetail
  else details

def assemble (config : ProviderConfig) (source : InventorySource)
    (probes : List ProbeRecord) (unprobed : List Int) : DiscoveryResult :=
  let build := buildInventoryFromProbes c config probes source
  { devices := build.supportedDevices
    unsupportedProbes := build.unsupportedProbes
    missingExpectedIds := build.missingExpectedIds
    missingExpectedDetails :=
      config.devices.foldl (noteUnprobed unprobed) build.missingExpectedDetails
    inventoryMode := source.toString }

/-- The candidates in the order they are probed, or a failed scan. -/
def candidates (session : Nat) (config : ProviderConfig) :
    Program ProviderInterface (Except String (List Int)) :=
  match config.discoveryMode with
  | .scan => do
      let (status, results) ← onSession session (SessionCall.scan {})
      if !status.ok then
        return .error ("CRUMBS bus scan failed: " ++ status.message)
      else return .ok (results.map fun result => (result.address.toNat : Int))
  | .manual => return .ok config.manualAddresses

def discoverySource : DiscoveryMode → InventorySource
  | .scan => .discovered
  | .manual => .manual

/-- The error is the exception's text. -/
def runDiscovery (session : Nat) (config : ProviderConfig)
    (deadline : Option Int) :
    Program ProviderInterface (Except String DiscoveryResult) := do
  match ← candidates session config with
  | .error what => return .error what
  | .ok addresses =>
      let (probes, unprobed) ← probeAll c session deadline addresses [] []
      return .ok (assemble c config (discoverySource config.discoveryMode)
        probes unprobed)

end BreadProvider.Startup
