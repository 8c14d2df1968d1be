import BreadProvider.Adapter.Rlht

/-!
# Provider — the DCMT adapter

Decoding of the motor board's GET_STATE payload and encoding of its control
calls. What `target` and `value` mean follows the mode the board reports.
-/

namespace BreadProvider.Dcmt

open Interaction Inventory

variable (c : Contracts)

/-! ## Decoding -/

structure DcmtState where
  mode : UInt8
  target1 : Int16
  target2 : Int16
  value1 : Int16
  value2 : Int16
  brakes : UInt8
  estop : UInt8
  estopCount : UInt8
  deriving DecidableEq

/-- The `switch` of `parse_state` on a parsed payload. -/
def stateOfRaw (raw : DcmtStateResult) : Option DcmtState :=
  let state (target1 target2 value1 value2 : Int16) : DcmtState :=
    { mode := raw.mode, target1, target2, value1, value2
      brakes := raw.brakes, estop := raw.estop, estopCount := raw.estopCount }
  let valid (v : Int16) : Bool := c.bread.isValidI16 v
  if raw.mode = c.dcmt.modeOpenLoop then
    some (state raw.m1Pwm raw.m2Pwm raw.m1Pwm raw.m2Pwm)
  else if raw.mode = c.dcmt.modeClosedPosition then
    if !valid raw.sp1 || !valid raw.sp2 then none
    else some (state raw.sp1 raw.sp2 raw.pos1 raw.pos2)
  else if raw.mode = c.dcmt.modeClosedSpeed then
    if !valid raw.sp1 || !valid raw.sp2 || !valid raw.spd1
        || !valid raw.spd2 then none
    else some (state raw.sp1 raw.sp2 raw.spd1 raw.spd2)
  else none

def parseState (payload : List UInt8) : Option DcmtState :=
  if 255 < payload.length then none
  else (c.dcmt.parseStatePayload payload).bind (stateOfRaw c)

def modeToString (mode : UInt8) : String :=
  if mode = c.dcmt.modeOpenLoop then "open_loop"
  else if mode = c.dcmt.modeClosedPosition then "closed_position"
  else if mode = c.dcmt.modeClosedSpeed then "closed_speed"
  else "unknown"

def isDefaultSignal (id : String) : Bool :=
  id == "motor1_value" || id == "motor2_value" || id == "motor1_brake"
    || id == "motor2_brake"

def stateSignals (s : DcmtState) : List SignalValue :=
  [makeSignalValue "mode" (makeStringVal (modeToString c s.mode)),
    makeSignalValue "motor1_target" (makeInt64Val s.target1.toInt),
    makeSignalValue "motor2_target" (makeInt64Val s.target2.toInt),
    makeSignalValue "motor1_value" (makeInt64Val s.value1.toInt),
    makeSignalValue "motor2_value" (makeInt64Val s.value2.toInt),
    makeSignalValue "motor1_brake" (makeBoolVal (s.brakes &&& 0x01 != 0)),
    makeSignalValue "motor2_brake" (makeBoolVal (s.brakes &&& 0x02 != 0)),
    makeSignalValue "estop" (makeBoolVal (s.estop != 0)),
    makeSignalValue "estop_count" (makeUint64Val s.estopCount.toNat)]

def readSignals (device : InventoryDevice) (signalIds : List String) :
    Program SessionInterface AdapterReadResult := do
  let address := addressByte device.address
  let (status, frame) ← SessionCall.queryRead address c.dcmt.opGetState
  if !status.ok then return readErrorFromSession status "DCMT GET_STATE"
  else if frame.typeId ≠ c.dcmt.typeId ∨ frame.opcode ≠ c.dcmt.opGetState then
    Rlht.rejectReply address "unexpected DCMT GET_STATE frame header"
  else
    match parseState c frame.payload with
    | none =>
        Rlht.rejectReply address
          "DCMT GET_STATE payload too short or malformed"
    | some s =>
        return {
          ok := true
          values := (stateSignals c s).filter fun v =>
            shouldInclude isDefaultSignal signalIds v.signalId }

/-- What a read returns once the state is parsed. -/
def readResult (ids : List String) :
    Option DcmtState → AdapterReadResult
  | none => readError .internal "DCMT GET_STATE payload too short or malformed"
  | some s =>
      { ok := true
        values := (stateSignals c s).filter fun v =>
          shouldInclude isDefaultSignal ids v.signalId }

theorem readSignals_eq (device : InventoryDevice)
    (ids : List String) :
    readSignals c device ids = .call
        (.queryRead (addressByte device.address) c.dcmt.opGetState) fun r =>
      let frame := r.2.getD {}
      if !r.1.ok then .ret (readErrorFromSession r.1 "DCMT GET_STATE")
      else if frame.typeId ≠ c.dcmt.typeId
          ∨ frame.opcode ≠ c.dcmt.opGetState then
        Rlht.rejectReply (addressByte device.address)
          "unexpected DCMT GET_STATE frame header"
      else
        match parseState c frame.payload with
        | none =>
            Rlht.rejectReply (addressByte device.address)
              "DCMT GET_STATE payload too short or malformed"
        | some s => .ret (readResult c ids (some s)) := rfl

/-! ## Encoding -/

/-- Two `int16` arguments under an opcode. -/
def int16Pair (args : ValueMap) (key₁ key₂ : String) (lo hi : Int)
    (range : String) (opcode : UInt8) : Except AdapterCallResult RawFrame := do
  let pair ← int64Pair args key₁ key₂ lo hi range
  return {
    typeId := c.dcmt.typeId
    opcode
    payload := appendI16Le (appendI16Le [] (.ofInt pair.1)) (.ofInt pair.2) }

def setOpenLoop (args : ValueMap) : Except AdapterCallResult RawFrame :=
  int16Pair c args "motor1_pwm" "motor2_pwm" (-255) 255
    "motor PWM values must be in [-255, 255]" c.dcmt.opSetOpenLoop

def setBrake (args : ValueMap) : Except AdapterCallResult RawFrame := do
  let b1 ← required (getArgBool args "motor1_brake")
    "missing or invalid arg: motor1_brake (bool)"
  let b2 ← required (getArgBool args "motor2_brake")
    "missing or invalid arg: motor2_brake (bool)"
  return {
    typeId := c.dcmt.typeId
    opcode := c.dcmt.opSetBrake
    payload := appendU8 (appendU8 [] (if b1 then 1 else 0))
      (if b2 then 1 else 0) }

def modeByte (mode : String) : Except AdapterCallResult UInt8 :=
  if mode = "open_loop" then .ok c.dcmt.modeOpenLoop
  else if mode = "closed_position" then .ok c.dcmt.modeClosedPosition
  else if mode = "closed_speed" then .ok c.dcmt.modeClosedSpeed
  else .error (callError .invalidArgument
    "mode must be 'open_loop', 'closed_position', or 'closed_speed'")

def setMode (args : ValueMap) : Except AdapterCallResult RawFrame := do
  let mode ← required (getArgString args "mode")
    "missing or invalid arg: mode (string)"
  let byte ← modeByte c mode
  return {
    typeId := c.dcmt.typeId
    opcode := c.dcmt.opSetMode
    payload := appendU8 [] byte }

def setSetpoint (args : ValueMap) : Except AdapterCallResult RawFrame :=
  int16Pair c args "motor1_target" "motor2_target" (-32768) 32767
    "motor target values must be in [-32768, 32767]" c.dcmt.opSetSetpoint

variable {c} in
theorem setSetpoint_eq_ok {args : ValueMap} {frame : RawFrame} :
    setSetpoint c args = .ok frame ↔ ∃ t1 t2 : Int,
      getArgInt64 args "motor1_target" = some t1 ∧
      getArgInt64 args "motor2_target" = some t2 ∧
      (-32768 ≤ t1 ∧ t1 ≤ 32767) ∧ (-32768 ≤ t2 ∧ t2 ≤ 32767) ∧
      frame =
        { typeId := c.dcmt.typeId
          opcode := c.dcmt.opSetSetpoint
          payload := appendI16Le (appendI16Le [] (.ofInt t1)) (.ofInt t2) } := by
  simp only [setSetpoint, int16Pair, Except.bind_eq_ok, int64Pair_eq_ok]
  constructor
  · rintro ⟨⟨t1, t2⟩, ⟨h₁, h₂, hr₁, hr₂⟩, hret⟩
    exact ⟨t1, t2, h₁, h₂, hr₁, hr₂, (Except.ok.inj hret).symm⟩
  · rintro ⟨t1, t2, h₁, h₂, hr₁, hr₂, rfl⟩
    exact ⟨(t1, t2), ⟨h₁, h₂, hr₁, hr₂⟩, rfl⟩

/-- Both PID functions; `loop` says which controller pair. -/
def setPid (loop : UInt8) (args : ValueMap) :
    Except AdapterCallResult RawFrame := do
  let gains ← pidGains args "_x1000"
    ("missing or invalid PID gain args (kp1/ki1/kd1/kp2/ki2/kd2_x1000, "
      ++ "all uint64)") 65535
    "PID gain values must be in [0, 65535]"
  return {
    typeId := c.dcmt.typeId
    opcode := c.dcmt.opSetPid
    payload := c.dcmt.setPidPack {
      loop
      kp1X1000 := .ofNat gains.kp1
      ki1X1000 := .ofNat gains.ki1
      kd1X1000 := .ofNat gains.kd1
      kp2X1000 := .ofNat gains.kp2
      ki2X1000 := .ofNat gains.ki2
      kd2X1000 := .ofNat gains.kd2 } }

def buildFrame (functionId : Nat) (args : ValueMap) :
    Except AdapterCallResult RawFrame :=
  match functionId with
  | 1 => setOpenLoop c args
  | 2 => setBrake c args
  | 3 => setMode c args
  | 4 => setSetpoint c args
  | 5 => setPid c c.dcmt.pidLoopPosition args
  | 6 => .ok {
      typeId := c.dcmt.typeId
      opcode := c.bread.opClearWatchdogTrip }
  | 7 => setPid c c.dcmt.pidLoopSpeed args
  | id => .error (callError .notFound
      ("unknown DCMT function_id " ++ decimal id))

/-! ## Transmission -/

/-- The refusal naming a braked motor that the command would drive. -/
def brakeRefusal (motor : String) : AdapterCallResult :=
  callError .failedPrecondition (motor
    ++ " brake is engaged, so the command would not move it; release it "
    ++ "first with set_brake (" ++ motor ++ "_brake: false)")

def brakedMotor (command1 command2 : Int16) (brakes : UInt8) :
    Option AdapterCallResult :=
  if command1 ≠ 0 ∧ brakes &&& 0x01 ≠ 0 then some (brakeRefusal "motor1")
  else if command2 ≠ 0 ∧ brakes &&& 0x02 ≠ 0 then some (brakeRefusal "motor2")
  else none

/-- The two commands of a frame that drives a motor, if any is nonzero. -/
def motorCommands (frame : RawFrame) : Option (Int16 × Int16) :=
  if frame.opcode = c.dcmt.opSetOpenLoop
      ∨ frame.opcode = c.dcmt.opSetSetpoint then
    match readI16Le frame.payload 0, readI16Le frame.payload 2 with
    | some command1, some command2 =>
        if command1 ≠ 0 ∨ command2 ≠ 0 then some (command1, command2)
        else none
    | _, _ => none
  else none

/-- Read the brakes before a nonzero motor command. A state that cannot be
read refuses nothing. -/
def brakeCheck (device : InventoryDevice) (frame : RawFrame) :
    Program SessionInterface (Option AdapterCallResult) :=
  match motorCommands c frame with
  | none => return none
  | some (command1, command2) => do
      let (status, reply) ← SessionCall.queryRead (addressByte device.address)
        c.dcmt.opGetState
      if status.ok ∧ reply.typeId = c.dcmt.typeId
          ∧ reply.opcode = c.dcmt.opGetState then
        return (parseState c reply.payload).bind fun state =>
          brakedMotor command1 command2 state.brakes
      else return none

/-- A closed-loop SET_MODE to a device configured without encoders. -/
def needsEncoders (device : InventoryDevice) (frame : RawFrame) : Bool :=
  !device.encoders && frame.opcode == c.dcmt.opSetMode
    && match frame.payload with
      | [] => false
      | mode :: _ => mode != c.dcmt.modeOpenLoop

def transmit (device : InventoryDevice) (frame : RawFrame) :
    Program SessionInterface AdapterCallResult := do
  match ← brakeCheck c device frame with
  | some refusal => return refusal
  | none =>
      if needsEncoders c device frame then
        return callError .invalidArgument ("closed-loop modes need encoders; "
          ++ "this device is configured with encoders: false")
      else transmitConfirmed c device frame "DCMT SET command"

/-- Open loop first, so that the zero PWM is what the motors follow. -/
def safeOutputSteps : List SafeOutputStep :=
  [⟨3, "set_mode", [("mode", makeStringVal "open_loop")]⟩,
    ⟨1, "set_open_loop", [("motor1_pwm", makeInt64Val 0),
      ("motor2_pwm", makeInt64Val 0)]⟩]

end BreadProvider.Dcmt
