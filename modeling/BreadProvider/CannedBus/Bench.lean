import Mathlib.Logic.Function.Basic
import BreadProvider.Adapter.Encoding
import BreadProvider.Adapter.SafeOutputs
import BreadProvider.CannedBus.SafeOutputs
import BreadProvider.Runtime

/-!
# Provider — the bench a mock provider stands for

What a mock provider without faults is for: a bench of boards, one for each
configured device. A call within reach is run once by its board and by no
other, a read says what the board's state is, and nothing else happens. There
is no session here, no bus, no acknowledgement and no retry; that the provider
is this bench is shown in `BreadProvider.CannedBus.Refines`.
-/

namespace BreadProvider

open Interaction Inventory CrumbsCannedBus

variable (c : Contracts)

/-! ## A board -/

/-- What commands change on a board. -/
structure Twin where
  outputs : Outputs := {}
  watchdogTimeoutMs : UInt16 := 0
  deriving DecidableEq

/-- The board of a type in this state. -/
def Twin.device (type : DeviceType) (t : Twin) : DeviceState :=
  { typeId := breadTypeId c type
    outputs := t.outputs
    watchdogTimeoutMs := t.watchdogTimeoutMs }

def Twin.ofDevice (dev : DeviceState) : Twin :=
  ⟨dev.outputs, dev.watchdogTimeoutMs⟩

/-- The board runs a command frame. -/
def Twin.run (type : DeviceType) (t : Twin) (frame : RawFrame) : Twin :=
  .ofDevice ((t.device c type).act c frame)

/-- It runs the frames one after another. -/
def Twin.runAll (type : DeviceType) (t : Twin) (frames : List RawFrame) :
    Twin :=
  frames.foldl (Twin.run c type) t

/-- The timeout a device is armed with. -/
def armedTimeout (device : InventoryDevice) : UInt16 :=
  let frame := Watchdog.armFrame c device
  (byteAt frame 0).toUInt16 ||| (byteAt frame 1).toUInt16 <<< 8

/-! ## What is made of its state -/

def Rlht.reading (device : InventoryDevice) (payload : List UInt8)
    (ids : List String) : AdapterReadResult :=
  match parseState c payload with
  | none => readError .internal "RLHT GET_STATE payload too short or malformed"
  | some s =>
      if hasFlag device.capabilityProfile.flags c.rlht.capEstopCount
          && payload.length ≤ c.rlht.stateOffEstopCount then
        readError .internal ("RLHT GET_STATE payload lacks estop_count "
          ++ "although the device advertises it")
      else readResult c device ids s

def Dcmt.reading (payload : List UInt8) (ids : List String) :
    AdapterReadResult :=
  match parseState c payload with
  | none => readError .internal "DCMT GET_STATE payload too short or malformed"
  | some s => readResult c ids (some s)

def Twin.reading (device : InventoryDevice) (t : Twin) (ids : List String) :
    AdapterReadResult :=
  let payload := SafeOutputs.statePayload c device.type t.outputs
  match device.type with
  | .rlht => Rlht.reading c device payload ids
  | .dcmt => Dcmt.reading c payload ids

/-- A motor that is braked as the board stands and would be driven. -/
def Dcmt.brakedBy (payload : List UInt8) (frame : RawFrame) :
    Option AdapterCallResult :=
  (motorCommands c frame).bind fun commands =>
    (parseState c payload).bind fun state =>
      brakedMotor commands.1 commands.2 state.brakes

def Dcmt.closedLoopRefusal : AdapterCallResult :=
  callError .invalidArgument ("closed-loop modes need encoders; "
    ++ "this device is configured with encoders: false")

/-- Why a frame is not sent to the board, if there is a reason. -/
def Twin.refusal (device : InventoryDevice) (t : Twin) (frame : RawFrame) :
    Option AdapterCallResult :=
  match device.type with
  | .rlht => none
  | .dcmt =>
      (Dcmt.brakedBy c (SafeOutputs.statePayload c .dcmt t.outputs) frame).or
        (if Dcmt.needsEncoders c device frame then some Dcmt.closedLoopRefusal
        else none)

/-- How a command that was run is reported. -/
def ranResult (device : InventoryDevice) : AdapterCallResult :=
  callOk (if setConfirmation c device = .unconfirmed then "ok (unconfirmed)"
    else "ok")

/-- A call's frame meets the board. -/
def Twin.transmit (device : InventoryDevice) (t : Twin) (frame : RawFrame) :
    AdapterCallResult × Twin :=
  match t.refusal c device frame with
  | some refused => (refused, t)
  | none => (ranResult c device, t.run c device.type frame)

/-- A call of a function is for the board, once a frame is built of it. -/
def Twin.call (device : InventoryDevice) (t : Twin) (functionId : Nat)
    (args : ValueMap) : AdapterCallResult × Twin :=
  match (adapterFor c device.type).buildFrame functionId args with
  | .error refused => (refused, t)
  | .ok frame => t.transmit c device frame

/-! ## The bench -/

structure Bench where
  devices : List InventoryDevice
  /-- The boards, by address. -/
  twins : UInt8 → Twin := fun _ => {}

namespace Bench

def twin (b : Bench) (device : InventoryDevice) : Twin :=
  b.twins (addressByte device.address)

/-- The board of a device is put in a state. -/
def set (b : Bench) (device : InventoryDevice) (t : Twin) : Bench :=
  { b with twins := Function.update b.twins (addressByte device.address) t }

/-- Drive a device safe, if the policy says to. -/
def driven (config : ProviderConfig) (b : Bench) (device : InventoryDevice) :
    Bench :=
  if config.outputsOnStartup = .leave then b
  else b.set device ((b.twin device).runAll c device.type
    (SafeOutputs.safeFrames c device.type))

def armed (b : Bench) (device : InventoryDevice) : Bench :=
  if Watchdog.Arms c device then
    b.set device ((b.twin device).run c device.type
      (Watchdog.armFrame c device))
  else b

/-- The bench after a start-up: every board driven safe where the policy says
so, then every watchdog armed. -/
def start (config : ProviderConfig) : Bench :=
  let devices := buildSeedInventory c config
  devices.foldl (armed c) (devices.foldl (driven c config) { devices })

def read (b : Bench) (deviceId : String) (ids : List String) :
    AdapterReadResult :=
  match findDevice b.devices deviceId with
  | none => readError .notFound "unknown device_id"
  | some device => (b.twin device).reading c device ids

def call (b : Bench) (deviceId : String) (functionId : Nat) (args : ValueMap) :
    AdapterCallResult × Bench :=
  match findDevice b.devices deviceId with
  | none => (callError .notFound "unknown device_id", b)
  | some device =>
      if !functionExists device functionId "" then
        (callError .notFound "unknown function_id", b)
      else
        (((b.twin device).call c device functionId args).1,
          b.set device ((b.twin device).call c device functionId args).2)

/-- A request is served as the bench would: the same answer to a read or a
call, and the bench as it leaves it. What a health request reports of the bus
is not the bench's to say. -/
def Serves (b : Bench) : Request → Response → Bench → Prop
  | .read deviceId ids, .read br, b' => br = b.read c deviceId ids ∧ b' = b
  | .call deviceId functionId args, .call br, b' =>
      (br, b') = b.call c deviceId functionId args
  | .deviceHealth _, .deviceHealth _, b' => b' = b
  | _, _, _ => False

@[simp] theorem set_devices (b : Bench) (device : InventoryDevice) (t : Twin) :
    (b.set device t).devices = b.devices := rfl

@[simp] theorem set_twin (b : Bench) (device : InventoryDevice) (t : Twin) :
    (b.set device t).twin device = t :=
  Function.update_self _ _ _

theorem set_twin_ne (b : Bench) {device d : InventoryDevice}
    (h : addressByte d.address ≠ addressByte device.address) (t : Twin) :
    (b.set device t).twin d = b.twin d :=
  Function.update_of_ne h _ _

theorem set_twin_self (b : Bench) (device : InventoryDevice) :
    b.set device (b.twin device) = b := by
  unfold set twin
  rw [Function.update_eq_self]

@[simp] theorem set_set (b : Bench) (device : InventoryDevice) (t t' : Twin) :
    (b.set device t).set device t' = b.set device t' := by
  unfold set
  rw [Function.update_idem]

@[simp] theorem driven_devices (config : ProviderConfig) (b : Bench)
    (device : InventoryDevice) :
    (b.driven c config device).devices = b.devices := by
  unfold driven
  split <;> rfl

@[simp] theorem armed_devices (b : Bench) (device : InventoryDevice) :
    (b.armed c device).devices = b.devices := by
  unfold armed
  split <;> rfl

theorem driven_foldl_devices (config : ProviderConfig) (b : Bench)
    (devices : List InventoryDevice) :
    (devices.foldl (driven c config) b).devices = b.devices := by
  induction devices generalizing b with
  | nil => rfl
  | cons device rest ih => rw [List.foldl_cons, ih, driven_devices]

theorem armed_foldl_devices (b : Bench) (devices : List InventoryDevice) :
    (devices.foldl (armed c) b).devices = b.devices := by
  induction devices generalizing b with
  | nil => rfl
  | cons device rest ih => rw [List.foldl_cons, ih, armed_devices]

theorem start_devices (config : ProviderConfig) :
    (start c config).devices = buildSeedInventory c config := by
  unfold start
  dsimp only
  rw [armed_foldl_devices, driven_foldl_devices]

end Bench

/-! ## The watchdogs -/

variable {c}

/-- Arming sets the timeout, and nothing else. -/
theorem Twin.run_armFrame (hc : c.OpcodesDistinct) (device : InventoryDevice)
    (t : Twin) : t.run c device.type (Watchdog.armFrame c device)
      = { t with watchdogTimeoutMs := armedTimeout c device } := by
  have hact : (t.device c device.type).act c (Watchdog.armFrame c device)
      = { t.device c device.type with
          watchdogTimeoutMs := armedTimeout c device } := by
    have hlength : (Watchdog.armFrame c device).payload.length = 2 := rfl
    have hopcode : (Watchdog.armFrame c device).opcode
        = c.bread.opSetWatchdog := rfl
    unfold DeviceState.act
    dsimp only
    rw [hlength, hopcode]
    -- No other command of the family has the opcode.
    cases device.type with
    | rlht =>
        have hr := hc.rlht
        have htype : (t.device c .rlht).typeId = c.rlht.typeId := rfl
        have hne : ∀ opcode ∈ [c.rlht.opSetMode, c.rlht.opSetSetpoints,
            c.rlht.opSetOpenDuty, c.rlht.opSetTcSelect],
            c.bread.opSetWatchdog ≠ opcode := by
          rintro opcode hmem rfl
          simp at hmem hr
          tauto
        simp only [List.forall_mem_cons] at hne
        simp only [htype, c.typeIdsDistinct, hne.1, hne.2.1, hne.2.2.1,
          hne.2.2.2.1, false_and, and_false, if_false, true_and,
          Nat.le_refl, if_true]
        rfl
    | dcmt =>
        have hd := hc.dcmt
        have htype : (t.device c .dcmt).typeId = c.dcmt.typeId := rfl
        have hne : ∀ opcode ∈ [c.dcmt.opSetOpenLoop, c.dcmt.opSetMode],
            c.bread.opSetWatchdog ≠ opcode := by
          rintro opcode hmem rfl
          simp at hmem hd
          tauto
        simp only [List.forall_mem_cons] at hne
        simp only [htype, c.typeIdsDistinct.symm, hne.1, hne.2.1, false_and,
          and_false, if_false, true_and, Nat.le_refl, if_true]
        rfl
  rw [Twin.run, hact]
  rfl

/-- Another command leaves it. -/
theorem Twin.run_timeout {type : DeviceType} {t : Twin} {frame : RawFrame}
    (hop : frame.opcode ≠ c.bread.opSetWatchdog) :
    (t.run c type frame).watchdogTimeoutMs = t.watchdogTimeoutMs := by
  show ((t.device c type).act c frame).watchdogTimeoutMs = _
  unfold DeviceState.act
  simp only [hop, false_and, if_false]
  split_ifs <;> rfl

/-- Every board that is to be armed has its timeout. -/
def Bench.Armed (c : Contracts) (b : Bench) : Prop :=
  ∀ d ∈ b.devices, Watchdog.Arms c d →
    (b.twin d).watchdogTimeoutMs = armedTimeout c d

/-- To arm an armed board again changes nothing. -/
theorem Bench.Armed.rearm {b : Bench} (h : b.Armed c) (hc : c.OpcodesDistinct)
    {device : InventoryDevice} (hdevice : device ∈ b.devices)
    (harms : Watchdog.Arms c device) :
    (b.twin device).run c device.type (Watchdog.armFrame c device)
      = b.twin device := by
  rw [Twin.run_armFrame hc, ← h device hdevice harms]

/-- A state with the same timeout leaves the bench armed. -/
theorem Bench.Armed.set {b : Bench} (h : b.Armed c) {device : InventoryDevice}
    {t : Twin} (hown : ∀ d ∈ b.devices,
      addressByte d.address = addressByte device.address → d = device)
    (ht : t.watchdogTimeoutMs = (b.twin device).watchdogTimeoutMs) :
    (b.set device t).Armed c := by
  intro d hd harms
  by_cases ha : addressByte d.address = addressByte device.address
  · obtain rfl := hown d hd ha
    rw [b.set_twin, ht]
    exact h d hd harms
  · rw [b.set_twin_ne ha]
    exact h d hd harms

/-- Arming the devices of a list arms them, and disarms none. -/
theorem Bench.armed_foldl (hc : c.OpcodesDistinct)
    {devices : List InventoryDevice} {b : Bench}
    (hsub : ∀ d ∈ devices, d ∈ b.devices)
    (hown : ∀ d ∈ b.devices, ∀ d' ∈ b.devices,
      addressByte d'.address = addressByte d.address → d' = d)
    {d : InventoryDevice} (hd : d ∈ b.devices)
    (harmed : d ∈ devices ∨
      (b.twin d).watchdogTimeoutMs = armedTimeout c d)
    (harms : Watchdog.Arms c d) :
    ((devices.foldl (Bench.armed c) b).twin d).watchdogTimeoutMs
      = armedTimeout c d := by
  induction devices generalizing b with
  | nil => exact harmed.resolve_left (by simp)
  | cons first rest ih =>
      have hdevices := b.armed_devices c first
      rw [List.foldl_cons]
      refine ih ?_ ?_ ?_ ?_
      · rw [hdevices]
        exact fun e he => hsub e (List.mem_cons_of_mem _ he)
      · rw [hdevices]
        exact hown
      · rw [hdevices]
        exact hd
      · by_cases ha : addressByte d.address = addressByte first.address
        · -- It is the device armed now.
          obtain rfl := hown first (hsub first List.mem_cons_self) d hd ha
          refine .inr ?_
          rw [Bench.armed, if_pos harms, b.set_twin,
            Twin.run_armFrame hc]
        · have hother : (b.armed c first).twin d = b.twin d := by
            rw [Bench.armed]
            split
            · exact b.set_twin_ne ha _
            · rfl
          rw [hother]
          refine harmed.imp (fun hmem => ?_) id
          refine (List.mem_cons.mp hmem).resolve_left ?_
          rintro rfl
          exact ha rfl

end BreadProvider
