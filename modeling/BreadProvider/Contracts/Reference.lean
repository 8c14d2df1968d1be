import BreadProvider.Inventory.Model

/-!
# Provider — a reference set of contracts

One assignment of the header constants, with the payload layouts the
sources document. Constants this repository does not show are
placeholders; no general result depends on a value here.
-/

namespace BreadProvider

namespace Reference

def word16 (lo hi : UInt8) : UInt16 := lo.toUInt16 ||| hi.toUInt16 <<< 8

def int16 (lo hi : UInt8) : Int16 := (word16 lo hi).toInt16

/-- `[counter][opcode][status][reason]` under the GET_ACK opcode. -/
def ackDecode (frame : RawFrame) : Option AckRecord :=
  match frame.payload with
  | [counter, opcode, status, reason] =>
      if frame.opcode = 0xFD then some ⟨counter, opcode, status, reason⟩
      else none
  | _ => none

/-- The counter moves by one per counted command. -/
def ackClassify (before after : AckRecord) (opcode : UInt8) : AckOutcome :=
  if after = before then .notAdvanced
  else if after.counter ≠ before.counter + 1 then .unknown
  else if after.opcode ≠ opcode then .mismatch
  else if after.status = 1 then .applied
  else if after.status = 2 then .refused
  else if after.status = 3 then .rejected
  else .unknown

def crumbs : Crumbs where
  version := 1600
  ackMinVersion := 1600
  cmdGetAck := 0xFD
  ackReadAttempts := 3
  ackApplied := 1
  ackRefused := 2
  ackRejected := 3
  ackRejectNoHandler := 1
  ackRejectType := 2
  ackDecode := ackDecode
  ackClassify := ackClassify

def parseVersion : List UInt8 → Option VersionResult
  | lo :: hi :: major :: minor :: patch :: _ =>
      some ⟨word16 lo hi, major, minor, patch⟩
  | _ => none

def capsParsePayload : List UInt8 → Option CapsResult
  | schema :: level :: b0 :: b1 :: b2 :: b3 :: _ =>
      some ⟨schema, level, b0.toUInt32 ||| b1.toUInt32 <<< 8
        ||| b2.toUInt32 <<< 16 ||| b3.toUInt32 <<< 24⟩
  | _ => none

def watchdogParsePayload : List UInt8 → Option WatchdogResult
  | armed :: lo :: hi :: tripped :: count :: _ =>
      some ⟨armed, word16 lo hi, tripped, count⟩
  | _ => none

def bread : BreadCommon where
  opGetCaps := 0x7F
  opSetWatchdog := 0x7D
  opGetWatchdog := 0x7E
  opClearWatchdogTrip := 0x7C
  watchdogClearTripPayloadLen := 0
  capsSchemaV1 := 1
  invalidI16 := -32768
  refuseEstop := 1
  refuseWatchdogTrip := 2
  refuseWrongMode := 3
  refuseMalformed := 4
  refuseUndefinedValue := 5
  refuseUnknownOp := 6
  refuseNotBuilt := 7
  parseVersion := parseVersion
  checkCrumbsCompat version := 1200 ≤ version
  checkModuleCompat major _ expectedMajor _ := major = expectedMajor
  capsParsePayload := capsParsePayload
  watchdogParsePayload := watchdogParsePayload

/-- 19 bytes, then `estop_count` where the firmware appends it. -/
def rlhtParseState : List UInt8 → Option RlhtStateResult
  | mode :: flags :: a0 :: a1 :: b0 :: b1 :: c0 :: c1 :: d0 :: d1
      :: e0 :: e1 :: f0 :: f1 :: g0 :: g1 :: h0 :: h1 :: tc :: rest =>
      some
        { mode, flags
          t1DeciC := int16 a0 a1
          t2DeciC := int16 b0 b1
          sp1DeciC := int16 c0 c1
          sp2DeciC := int16 d0 d1
          on1Ms := word16 e0 e1
          on2Ms := word16 f0 f1
          period1Ms := word16 g0 g1
          period2Ms := word16 h0 h1
          tc1 := tc &&& 3
          tc2 := tc >>> 2 &&& 3
          estopCount := rest.headD 0 }
  | _ => none

def rlht : RlhtOps where
  typeId := 0x01
  moduleVerMajor := 1
  moduleVerMinor := 0
  moduleVerPatch := 0
  opSetMode := 0x01
  opSetSetpoints := 0x02
  opSetPid := 0x03
  opSetPeriods := 0x04
  opSetTcSelect := 0x05
  opSetOpenDuty := 0x06
  opGetState := 0x80
  modeClosedLoop := 0
  modeOpenLoop := 1
  flagRelay1On := 1
  flagRelay2On := 2
  flagEstop := 4
  periodMinMs := 100
  periodMaxMs := 10000
  stateOffEstopCount := 19
  capLevel1 := 1
  capBaselineFlags := 0x3F
  capModeControl := 0x01
  capSetpointControl := 0x02
  capPidTuning := 0x04
  capPeriodControl := 0x08
  capTcSelect := 0x10
  capOpenDutyControl := 0x20
  capCmdWatchdog := 0x40
  capClearWatchdogTrip := 0x80
  capEstopCount := 0x100
  capRefuses := 0x200
  parseStatePayload := rlhtParseState

/-- 20 bytes. -/
def dcmtParseState : List UInt8 → Option DcmtStateResult
  | mode :: a0 :: a1 :: b0 :: b1 :: c0 :: c1 :: d0 :: d1 :: e0 :: e1
      :: f0 :: f1 :: g0 :: g1 :: h0 :: h1 :: brakes :: estop
      :: estopCount :: _ =>
      some
        { mode, brakes, estop, estopCount
          m1Pwm := int16 a0 a1
          m2Pwm := int16 b0 b1
          sp1 := int16 c0 c1
          sp2 := int16 d0 d1
          pos1 := int16 e0 e1
          pos2 := int16 f0 f1
          spd1 := int16 g0 g1
          spd2 := int16 h0 h1 }
  | _ => none

def lowByte (v : UInt16) : UInt8 := (v &&& 0xFF).toUInt8

def highByte (v : UInt16) : UInt8 := (v >>> 8).toUInt8

/-- One loop byte, then six `u16`. -/
def dcmtSetPidPack (pid : DcmtSetPid) : List UInt8 :=
  pid.loop :: [pid.kp1X1000, pid.ki1X1000, pid.kd1X1000, pid.kp2X1000,
    pid.ki2X1000, pid.kd2X1000].flatMap fun v => [lowByte v, highByte v]

def dcmt : DcmtOps where
  typeId := 0x02
  moduleVerMajor := 2
  moduleVerMinor := 0
  moduleVerPatch := 0
  opSetOpenLoop := 0x01
  opSetBrake := 0x02
  opSetMode := 0x03
  opSetSetpoint := 0x04
  opSetPid := 0x05
  opGetState := 0x80
  modeOpenLoop := 0
  modeClosedPosition := 1
  modeClosedSpeed := 2
  pidLoopPosition := 0
  pidLoopSpeed := 1
  capLevel1 := 1
  capLevel3 := 3
  capBaselineFlags := 0x03
  capOpenLoopControl := 0x01
  capBrakeControl := 0x02
  capClosedLoopPosition := 0x04
  capClosedLoopSpeed := 0x08
  capPidTuning := 0x10
  capCmdWatchdog := 0x20
  capClearWatchdogTrip := 0x40
  capRefuses := 0x100
  parseStatePayload := dcmtParseState
  setPidPack := dcmtSetPidPack
  modesDistinct := by decide

def claimKey (busPath : String) (address : Nat) : String :=
  "i2c:" ++ busPath ++ ":0x" ++ String.ofList (Nat.toDigits 16 address)

/-- The bus path up to the `?`, and the query after it. -/
def splitBusQuery (busPath : String) : String × String :=
  let path := busPath.toList.takeWhile (· ≠ '?')
  (String.ofList path,
    String.ofList (busPath.toList.drop (path.length + 1)))

def faultSpecAny (query : String) : Except String Bool := .ok (query ≠ "")

end Reference

def Contracts.reference : Contracts where
  crumbs := Reference.crumbs
  bread := Reference.bread
  rlht := Reference.rlht
  dcmt := Reference.dcmt
  claimKey := Reference.claimKey
  splitBusQuery := Reference.splitBusQuery
  faultSpecAny := Reference.faultSpecAny
  typeIdsDistinct := by decide

/-! ## One heater and one motor board -/

namespace Reference

open Inventory

def rlhtSpec : DeviceSpec :=
  { id := "heater", type := .rlht, label := "Heater", address := 0x0A }

def dcmtSpec : DeviceSpec :=
  { id := "pump", type := .dcmt, label := "Pump", address := 0x15 }

def config : ProviderConfig :=
  { busPath := "/dev/i2c-1"
    manualAddresses := [0x0A, 0x15]
    devices := [rlhtSpec, dcmtSpec] }

/-- The device a spec's board becomes, seeded capabilities and all. -/
def deviceFor (spec : DeviceSpec) : InventoryDevice :=
  matchedDevice .reference config .manual spec spec.type
    (seedProbe .reference spec)

def rlhtDevice : InventoryDevice := deviceFor rlhtSpec

def dcmtDevice : InventoryDevice := deviceFor dcmtSpec

theorem config_distinct : config.Distinct where
  ids := by decide
  addresses := by decide

end Reference

end BreadProvider
