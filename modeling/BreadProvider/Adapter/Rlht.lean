import BreadProvider.Adapter.Arguments
import BreadProvider.Adapter.SetConfirm

/-!
# Provider — the RLHT adapter

Decoding of the heater's GET_STATE payload and encoding of its control
calls.
-/

namespace BreadProvider

open Interaction Inventory

/-- `should_include` over a family's `is_default_signal`. -/
def shouldInclude (isDefaultSignal : String → Bool) (ids : List String)
    (id : String) : Bool :=
  if ids.isEmpty then isDefaultSignal id else ids.contains id

/-- `std::to_string` of a `uint32_t` or a `size_t`. -/
abbrev decimal (n : Nat) : String := toString n

namespace Rlht

variable (c : Contracts)

/-! ## Decoding -/

def parseState (payload : List UInt8) : Option RlhtStateResult :=
  if 255 < payload.length then none else c.rlht.parseStatePayload payload

def isDefaultSignal (id : String) : Bool :=
  id == "t1_c" || id == "t2_c" || id == "relay1_on" || id == "relay2_on"

/-- A tenth-degree field; the sentinel becomes a placeholder of quality
FAULT. -/
def deciCSignal (id : String) (deciC : Int16) : SignalValue :=
  if !c.bread.isValidI16 deciC then
    makeSignalValue id (makeDoubleVal 0) .fault
  else makeSignalValue id (makeDoubleVal (deciC.toInt / 10))

def thermocoupleSignal (id : String) (select : UInt8) : SignalValue :=
  if select.toNat < kRlhtThermocoupleMin ∨ kRlhtThermocoupleMax < select.toNat
  then makeSignalValue id (makeUint64Val select.toNat) .fault
  else makeSignalValue id (makeUint64Val select.toNat)

@[simp] theorem deciCSignal_signalId (id : String) (deciC : Int16) :
    (deciCSignal c id deciC).signalId = id := by
  unfold deciCSignal
  split <;> rfl

@[simp] theorem thermocoupleSignal_signalId (id : String) (select : UInt8) :
    (thermocoupleSignal id select).signalId = id := by
  unfold thermocoupleSignal
  split <;> rfl

/-- Every signal of a decoded state, in the order they are reported. -/
def stateSignals (hasEstopCount : Bool) (s : RlhtStateResult) :
    List SignalValue :=
  [makeSignalValue "mode" (makeStringVal
      (if s.mode = c.rlht.modeOpenLoop then "open_loop" else "closed_loop")),
    deciCSignal c "t1_c" s.t1DeciC,
    deciCSignal c "t2_c" s.t2DeciC,
    deciCSignal c "setpoint1_c" s.sp1DeciC,
    deciCSignal c "setpoint2_c" s.sp2DeciC,
    makeSignalValue "period1_ms" (makeUint64Val s.period1Ms.toNat),
    makeSignalValue "period2_ms" (makeUint64Val s.period2Ms.toNat),
    makeSignalValue "on1_ms" (makeUint64Val s.on1Ms.toNat),
    makeSignalValue "on2_ms" (makeUint64Val s.on2Ms.toNat),
    thermocoupleSignal "channel1_thermocouple" s.tc1,
    thermocoupleSignal "channel2_thermocouple" s.tc2,
    makeSignalValue "relay1_on"
      (makeBoolVal (s.flags &&& c.rlht.flagRelay1On != 0)),
    makeSignalValue "relay2_on"
      (makeBoolVal (s.flags &&& c.rlht.flagRelay2On != 0)),
    makeSignalValue "estop"
      (makeBoolVal (s.flags &&& c.rlht.flagEstop != 0))]
    ++ if hasEstopCount then
        [makeSignalValue "estop_count" (makeUint64Val s.estopCount.toNat)]
      else []

/-- A reply that answered the query but not the adapter. -/
def rejectReply (address : UInt8) (message : String) :
    Program SessionInterface AdapterReadResult := do
  SessionCall.recordRejection address
  return readError .internal message

theorem rejectReply_eq (address : UInt8) (message : String) :
    rejectReply address message
      = .call (.recordRejection address) fun _ =>
          .ret (readError .internal message) := rfl

def readSignals (device : InventoryDevice) (signalIds : List String) :
    Program SessionInterface AdapterReadResult := do
  let address := addressByte device.address
  let (status, frame) ← SessionCall.queryRead address c.rlht.opGetState
  if !status.ok then return readErrorFromSession status "RLHT GET_STATE"
  else if frame.typeId ≠ c.rlht.typeId ∨ frame.opcode ≠ c.rlht.opGetState then
    rejectReply address "unexpected RLHT GET_STATE frame header"
  else
    match parseState c frame.payload with
    | none =>
        rejectReply address "RLHT GET_STATE payload too short or malformed"
    | some s =>
        let hasEstopCount :=
          hasFlag device.capabilityProfile.flags c.rlht.capEstopCount
        if hasEstopCount
            && frame.payload.length ≤ c.rlht.stateOffEstopCount then
          rejectReply address ("RLHT GET_STATE payload lacks estop_count "
            ++ "although the device advertises it")
        else
          return {
            ok := true
            values := (stateSignals c hasEstopCount s).filter fun v =>
              shouldInclude isDefaultSignal signalIds v.signalId }

/-- What a read of that reply returns. -/
def readResult (device : InventoryDevice) (ids : List String)
    (s : RlhtStateResult) : AdapterReadResult :=
  { ok := true
    values := (stateSignals c
        (hasFlag device.capabilityProfile.flags c.rlht.capEstopCount) s).filter
      fun v => shouldInclude isDefaultSignal ids v.signalId }

theorem readSignals_eq (device : InventoryDevice)
    (ids : List String) :
    readSignals c device ids = .call
        (.queryRead (addressByte device.address) c.rlht.opGetState) fun r =>
      let frame := r.2.getD {}
      if !r.1.ok then .ret (readErrorFromSession r.1 "RLHT GET_STATE")
      else if frame.typeId ≠ c.rlht.typeId
          ∨ frame.opcode ≠ c.rlht.opGetState then
        rejectReply (addressByte device.address)
          "unexpected RLHT GET_STATE frame header"
      else
        match parseState c frame.payload with
        | none =>
            rejectReply (addressByte device.address)
              "RLHT GET_STATE payload too short or malformed"
        | some s =>
            if hasFlag device.capabilityProfile.flags c.rlht.capEstopCount
                && frame.payload.length ≤ c.rlht.stateOffEstopCount then
              rejectReply (addressByte device.address)
                ("RLHT GET_STATE payload lacks estop_count "
                  ++ "although the device advertises it")
            else .ret (readResult c device ids s) := rfl

/-! ## Encoding -/

def setMode (args : ValueMap) : Except AdapterCallResult RawFrame := do
  let mode ← required (getArgString args "mode")
    "missing or invalid arg: mode (string)"
  rejectIf (mode ≠ "closed_loop" ∧ mode ≠ "open_loop") .invalidArgument
    "mode must be 'closed_loop' or 'open_loop'"
  return {
    typeId := c.rlht.typeId
    opcode := c.rlht.opSetMode
    payload := appendU8 [] (if mode = "open_loop" then c.rlht.modeOpenLoop
      else c.rlht.modeClosedLoop) }

/-- A finite argument, or INVALID_ARGUMENT. -/
def finite : Double → Except AdapterCallResult ℚ
  | .finite q => .ok q
  | _ => .error (callError .invalidArgument
      "setpoint values must be finite (not NaN or +/-Inf)")

def setSetpoints (args : ValueMap) : Except AdapterCallResult RawFrame := do
  let sp1 ← required (getArgDouble args "setpoint1_c")
    "missing or invalid arg: setpoint1_c (double)"
  let sp2 ← required (getArgDouble args "setpoint2_c")
    "missing or invalid arg: setpoint2_c (double)"
  let sp1 ← finite sp1
  let sp2 ← finite sp2
  let lo : ℚ := -32768 / 10
  let hi : ℚ := 32767 / 10
  rejectIf (sp1 < lo ∨ hi < sp1 ∨ sp2 < lo ∨ hi < sp2) .outOfRange
    "setpoint values must be in [-3276.8, 3276.7] C"
  let sp1Deci := llround (sp1 * 10)
  let sp2Deci := llround (sp2 * 10)
  rejectIf (sp1Deci < -32768 ∨ 32767 < sp1Deci ∨ sp2Deci < -32768
      ∨ 32767 < sp2Deci) .invalidArgument
    "setpoint conversion out of int16 range"
  return {
    typeId := c.rlht.typeId
    opcode := c.rlht.opSetSetpoints
    payload := appendI16Le (appendI16Le [] (.ofInt sp1Deci)) (.ofInt sp2Deci) }

variable {c} in
theorem setSetpoints_eq_ok {args : ValueMap} {frame : RawFrame} :
    setSetpoints c args = .ok frame ↔ ∃ sp1 sp2 : ℚ,
      getArgDouble args "setpoint1_c" = some (.finite sp1) ∧
      getArgDouble args "setpoint2_c" = some (.finite sp2) ∧
      (-32768 / 10 ≤ sp1 ∧ sp1 ≤ 32767 / 10) ∧
      (-32768 / 10 ≤ sp2 ∧ sp2 ≤ 32767 / 10) ∧
      frame =
        { typeId := c.rlht.typeId
          opcode := c.rlht.opSetSetpoints
          payload := appendI16Le (appendI16Le [] (.ofInt (llround (sp1 * 10))))
            (.ofInt (llround (sp2 * 10))) } := by
  have hfinite : ∀ {d : Double} {q : ℚ},
      finite d = .ok q ↔ d = .finite q := by
    intro d q
    cases d <;> simp [finite]
  simp only [setSetpoints, Except.bind_eq_ok, required_eq_ok, hfinite,
    rejectIf_eq_ok, not_or, not_lt]
  constructor
  · rintro ⟨_, h₁, _, h₂, sp1, rfl, sp2, rfl, -, ⟨hlo₁, hhi₁, hlo₂, hhi₂⟩, -, -,
      hret⟩
    exact ⟨sp1, sp2, h₁, h₂, ⟨hlo₁, hhi₁⟩, ⟨hlo₂, hhi₂⟩,
      (Except.ok.inj hret).symm⟩
  · rintro ⟨sp1, sp2, h₁, h₂, ⟨hlo₁, hhi₁⟩, ⟨hlo₂, hhi₂⟩, rfl⟩
    have hr₁ := @llround_mem (sp1 * 10) (-32768) 32767 (by push_cast; linarith)
      (by push_cast; linarith)
    have hr₂ := @llround_mem (sp2 * 10) (-32768) 32767 (by push_cast; linarith)
      (by push_cast; linarith)
    exact ⟨_, h₁, _, h₂, sp1, rfl, sp2, rfl, (), ⟨hlo₁, hhi₁, hlo₂, hhi₂⟩, (),
      ⟨hr₁.1, hr₁.2, hr₂.1, hr₂.2⟩, rfl⟩

def setPid (args : ValueMap) : Except AdapterCallResult RawFrame := do
  let gains ← pidGains args "_x10"
    ("missing or invalid PID gain args (kp1/ki1/kd1/kp2/ki2/kd2_x10, "
      ++ "all uint64)") 255
    "PID gain values must be in [0, 255]"
  return {
    typeId := c.rlht.typeId
    opcode := c.rlht.opSetPid
    payload := [.ofNat gains.kp1, .ofNat gains.ki1, .ofNat gains.kd1,
      .ofNat gains.kp2, .ofNat gains.ki2, .ofNat gains.kd2] }

def setPeriods (args : ValueMap) : Except AdapterCallResult RawFrame := do
  let periods ← uint64Pair args "period1_ms" "period2_ms"
    "missing or invalid args: period1_ms, period2_ms (uint64)"
    c.rlht.periodMinMs c.rlht.periodMaxMs
    ("period values must be in [" ++ decimal c.rlht.periodMinMs ++ ", "
      ++ decimal c.rlht.periodMaxMs ++ "] ms")
  return {
    typeId := c.rlht.typeId
    opcode := c.rlht.opSetPeriods
    payload := appendU16Le (appendU16Le [] (.ofNat periods.1))
      (.ofNat periods.2) }

/-- Two `uint64` arguments that each fit the byte they are sent in. -/
def bytePair (args : ValueMap) (key₁ key₂ missing : String) (lo hi : Nat)
    (range : String) (opcode : UInt8) : Except AdapterCallResult RawFrame := do
  let pair ← uint64Pair args key₁ key₂ missing lo hi range
  return {
    typeId := c.rlht.typeId
    opcode
    payload := appendU8 (appendU8 [] (.ofNat pair.1)) (.ofNat pair.2) }

def setTcSelect (args : ValueMap) : Except AdapterCallResult RawFrame :=
  bytePair c args "channel1_thermocouple" "channel2_thermocouple"
    ("missing or invalid args: channel1_thermocouple, channel2_thermocouple "
      ++ "(uint64)")
    kRlhtThermocoupleMin kRlhtThermocoupleMax
    "thermocouple values must be 1 or 2" c.rlht.opSetTcSelect

def setOpenDuty (args : ValueMap) : Except AdapterCallResult RawFrame :=
  bytePair c args "duty1_pct" "duty2_pct"
    "missing or invalid args: duty1_pct, duty2_pct (uint64)"
    0 100 "duty_pct values must be in [0, 100]" c.rlht.opSetOpenDuty

/-- Validation and encoding; the error is the call's answer. -/
def buildFrame (functionId : Nat) (args : ValueMap) :
    Except AdapterCallResult RawFrame :=
  match functionId with
  | 1 => setMode c args
  | 2 => setSetpoints c args
  | 3 => setPid c args
  | 4 => setPeriods c args
  | 5 => setTcSelect c args
  | 6 => setOpenDuty c args
  | 7 => .ok {
      typeId := c.rlht.typeId
      opcode := c.bread.opClearWatchdogTrip }
  | id => .error (callError .notFound
      ("unknown RLHT function_id " ++ decimal id))

def transmit (device : InventoryDevice) (frame : RawFrame) :
    Program SessionInterface AdapterCallResult :=
  transmitConfirmed c device frame "RLHT SET command"

/-- Mode goes before duty: the board ignores a duty in closed loop. -/
def safeOutputSteps : List SafeOutputStep :=
  [⟨2, "set_setpoints", [("setpoint1_c", makeDoubleVal 0),
      ("setpoint2_c", makeDoubleVal 0)]⟩,
    ⟨1, "set_mode", [("mode", makeStringVal "open_loop")]⟩,
    ⟨6, "set_open_duty_pct", [("duty1_pct", makeUint64Val 0),
      ("duty2_pct", makeUint64Val 0)]⟩]

end Rlht

end BreadProvider
