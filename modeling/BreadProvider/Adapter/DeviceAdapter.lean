import BreadProvider.Adapter.Dcmt

/-!
# Provider — device adapters

One adapter a device family, the two-stage call over it, the safe-output
sequence and the firmware command watchdog.
-/

namespace BreadProvider

open Interaction Inventory

structure DeviceAdapter where
  readSignals : InventoryDevice → List String →
    Program SessionInterface AdapterReadResult
  buildFrame : Nat → ValueMap → Except AdapterCallResult RawFrame
  transmit : InventoryDevice → RawFrame →
    Program SessionInterface AdapterCallResult
  safeOutputSteps : List SafeOutputStep

variable (c : Contracts)

def adapterFor : DeviceType → DeviceAdapter
  | .rlht =>
      { readSignals := Rlht.readSignals c
        buildFrame := Rlht.buildFrame c
        transmit := Rlht.transmit c
        safeOutputSteps := Rlht.safeOutputSteps }
  | .dcmt =>
      { readSignals := Dcmt.readSignals c
        buildFrame := Dcmt.buildFrame c
        transmit := Dcmt.transmit c
        safeOutputSteps := Dcmt.safeOutputSteps }

/-- Validate and encode, then transmit: `call` on a session there is. -/
def adapterCall (device : InventoryDevice) (functionId : Nat)
    (args : ValueMap) : Program SessionInterface AdapterCallResult :=
  match (adapterFor c device.type).buildFrame functionId args with
  | .error refused => return refused
  | .ok frame => (adapterFor c device.type).transmit device frame

/-! ## Safe outputs -/

namespace SafeOutputs

structure Result where
  ok : Bool := true
  failures : String := ""
  deriving DecidableEq

/-- A step's outcome added to the result so far. -/
def Result.note (r : Result) (step : SafeOutputStep)
    (sent : AdapterCallResult) : Result :=
  if sent.ok then r
  else
    { ok := false
      failures := (if r.failures = "" then "" else r.failures ++ "; ")
        ++ step.name ++ ": " ++ sent.errorMessage }

def driveSteps (device : InventoryDevice) :
    List SafeOutputStep → Result → Program SessionInterface Result
  | [], r => return r
  | step :: rest, r => do
      let sent ← adapterCall c device step.functionId step.args
      driveSteps device rest (r.note step sent)

/-- Every step of the sequence, whatever the earlier ones returned. -/
def drive (device : InventoryDevice) : Program SessionInterface Result :=
  driveSteps c device (adapterFor c device.type).safeOutputSteps {}

def toMetric (r : Result) : String :=
  if r.ok then "set" else "not set: " ++ r.failures

end SafeOutputs

/-! ## The command watchdog -/

namespace Watchdog

def capabilityFlagFor : DeviceType → UInt32
  | .rlht => c.rlht.capCmdWatchdog
  | .dcmt => c.dcmt.capCmdWatchdog

def capabilitySupported (device : InventoryDevice) : Bool :=
  capabilityFlagFor c device.type != 0
    && hasFlag device.capabilityProfile.flags (capabilityFlagFor c device.type)

/-- SET_WATCHDOG with the configured timeout. -/
def armFrame (device : InventoryDevice) : RawFrame :=
  { typeId := breadTypeId c device.type
    opcode := c.bread.opSetWatchdog
    payload := appendU16Le [] (.ofInt device.commandWatchdogMs) }

/-- Configured, and offered by the firmware. -/
def Arms (device : InventoryDevice) : Prop :=
  0 < device.commandWatchdogMs ∧ capabilitySupported c device = true

instance (device : InventoryDevice) : Decidable (Arms c device) :=
  inferInstanceAs (Decidable (_ ∧ _))

/-- The outcome of the send is logged only. -/
def armIfConfigured (device : InventoryDevice) :
    Program SessionInterface Unit :=
  if Arms c device then do
    let _ ← SessionCall.send (addressByte device.address) (armFrame c device)
  else return ()

structure WatchdogStatus where
  armed : Bool := false
  timeoutMs : UInt16 := 0
  tripped : Bool := false
  tripCount : UInt8 := 0
  deriving DecidableEq

def rearmIfRebooted (device : InventoryDevice) (status : WatchdogStatus) :
    Program SessionInterface Bool :=
  if device.commandWatchdogMs ≤ 0 ∨ capabilitySupported c device = false
      ∨ status.armed ∨ status.tripped then return false
  else do
    armIfConfigured c device
    return true

/-- The status, and what it reports where it is a success. -/
def queryStatus (device : InventoryDevice) :
    Program SessionInterface (SessionStatus × WatchdogStatus) := do
  let address := addressByte device.address
  let (status, frame) ← SessionCall.queryRead address c.bread.opGetWatchdog
  if !status.ok then return (status, {})
  else if frame.opcode ≠ c.bread.opGetWatchdog then
    SessionCall.recordRejection address
    return (.failure .decodeFailed "unexpected watchdog reply opcode", {})
  else
    match c.bread.watchdogParsePayload (payloadView frame.payload) with
    | none =>
        SessionCall.recordRejection address
        return (.failure .decodeFailed "failed to parse watchdog payload", {})
    | some parsed =>
        return (.success,
          { armed := parsed.armed != 0
            timeoutMs := parsed.timeoutMs
            tripped := parsed.tripped != 0
            tripCount := parsed.tripCount })

end Watchdog

end BreadProvider
