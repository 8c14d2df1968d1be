import Mathlib.Data.Nat.Notation

/-!
# Provider — CRUMBS and the BREAD contracts

Everything the provider takes from headers outside this repository: CRUMBS
(`crumbs.h`), the bread-crumbs-contracts (`bread/*.h`) and the provider
SDK's claim key. They enter the model as one parameter. Its proof fields
are what the provider's own `switch` statements force: two equal case
labels do not compile.
-/

namespace BreadProvider

/-- `RawFrame`: one CRUMBS frame as the session sees it. -/
structure RawFrame where
  typeId : UInt8 := 0
  opcode : UInt8 := 0
  payload : List UInt8 := []
  deriving DecidableEq, Repr

/-- The bytes a parser given `payload.data()` and `payload.size()` cast to
`uint8_t` may look at. -/
def payloadView (payload : List UInt8) : List UInt8 :=
  payload.take (payload.length % 256)

theorem payloadView_eq {payload : List UInt8} (h : payload.length < 256) :
    payloadView payload = payload := by
  rw [payloadView, Nat.mod_eq_of_lt h, List.take_length]

/-! ## CRUMBS -/

/-- `crumbs_ack_t`: the GET_ACK record of a peripheral. -/
structure AckRecord where
  counter : UInt8
  opcode : UInt8
  status : UInt8
  reason : UInt8
  deriving DecidableEq, Repr

/-- What `crumbs_ack_classify` answers; `invalid` is any other result. -/
inductive AckOutcome where
  | applied
  | refused
  | rejected
  | notAdvanced
  | mismatch
  | unknown
  | invalid
  deriving DecidableEq, Repr

/-- `crumbs.h`. -/
structure Crumbs where
  version : UInt16
  ackMinVersion : UInt16
  cmdGetAck : UInt8
  ackReadAttempts : Nat
  ackApplied : UInt8
  ackRefused : UInt8
  ackRejected : UInt8
  ackRejectNoHandler : UInt8
  ackRejectType : UInt8
  ackDecode : RawFrame → Option AckRecord
  ackClassify : AckRecord → AckRecord → UInt8 → AckOutcome

/-! ## bread common -/

structure CapsResult where
  schema : UInt8
  level : UInt8
  flags : UInt32
  deriving DecidableEq, Repr

structure VersionResult where
  crumbsVersion : UInt16
  moduleMajor : UInt8
  moduleMinor : UInt8
  modulePatch : UInt8
  deriving DecidableEq, Repr

structure WatchdogResult where
  armed : UInt8
  timeoutMs : UInt16
  tripped : UInt8
  tripCount : UInt8
  deriving DecidableEq, Repr

/-- `bread_caps.h`, `bread_version_helpers.h`, `bread_refuse.h` and
`bread_watchdog.h`. -/
structure BreadCommon where
  opGetCaps : UInt8
  opSetWatchdog : UInt8
  opGetWatchdog : UInt8
  opClearWatchdogTrip : UInt8
  watchdogClearTripPayloadLen : Nat
  capsSchemaV1 : UInt8
  invalidI16 : Int16
  refuseEstop : UInt8
  refuseWatchdogTrip : UInt8
  refuseWrongMode : UInt8
  refuseMalformed : UInt8
  refuseUndefinedValue : UInt8
  refuseUnknownOp : UInt8
  refuseNotBuilt : UInt8
  parseVersion : List UInt8 → Option VersionResult
  checkCrumbsCompat : UInt16 → Bool
  checkModuleCompat : UInt8 → UInt8 → UInt8 → UInt8 → Bool
  capsParsePayload : List UInt8 → Option CapsResult
  watchdogParsePayload : List UInt8 → Option WatchdogResult

/-- `BREAD_IS_VALID_I16`. -/
def BreadCommon.isValidI16 (b : BreadCommon) (v : Int16) : Bool :=
  v != b.invalidI16

@[simp] theorem BreadCommon.isValidI16_iff {b : BreadCommon} {v : Int16} :
    b.isValidI16 v = true ↔ v ≠ b.invalidI16 := by
  simp [isValidI16]

/-! ## The families -/

/-- `rlht_state_result_t`. -/
structure RlhtStateResult where
  mode : UInt8
  flags : UInt8
  t1DeciC : Int16
  t2DeciC : Int16
  sp1DeciC : Int16
  sp2DeciC : Int16
  on1Ms : UInt16
  on2Ms : UInt16
  period1Ms : UInt16
  period2Ms : UInt16
  tc1 : UInt8
  tc2 : UInt8
  estopCount : UInt8
  deriving DecidableEq, Repr

/-- `rlht_ops.h`. -/
structure RlhtOps where
  typeId : UInt8
  moduleVerMajor : UInt8
  moduleVerMinor : UInt8
  moduleVerPatch : UInt8
  opSetMode : UInt8
  opSetSetpoints : UInt8
  opSetPid : UInt8
  opSetPeriods : UInt8
  opSetTcSelect : UInt8
  opSetOpenDuty : UInt8
  opGetState : UInt8
  modeClosedLoop : UInt8
  modeOpenLoop : UInt8
  flagRelay1On : UInt8
  flagRelay2On : UInt8
  flagEstop : UInt8
  periodMinMs : Nat
  periodMaxMs : Nat
  stateOffEstopCount : Nat
  capLevel1 : UInt8
  capBaselineFlags : UInt32
  capModeControl : UInt32
  capSetpointControl : UInt32
  capPidTuning : UInt32
  capPeriodControl : UInt32
  capTcSelect : UInt32
  capOpenDutyControl : UInt32
  capCmdWatchdog : UInt32
  capClearWatchdogTrip : UInt32
  capEstopCount : UInt32
  capRefuses : UInt32
  parseStatePayload : List UInt8 → Option RlhtStateResult

/-- `dcmt_state_result_t`. -/
structure DcmtStateResult where
  mode : UInt8
  m1Pwm : Int16
  m2Pwm : Int16
  sp1 : Int16
  sp2 : Int16
  pos1 : Int16
  pos2 : Int16
  spd1 : Int16
  spd2 : Int16
  brakes : UInt8
  estop : UInt8
  estopCount : UInt8
  deriving DecidableEq, Repr

/-- `dcmt_set_pid_t`. -/
structure DcmtSetPid where
  loop : UInt8
  kp1X1000 : UInt16
  ki1X1000 : UInt16
  kd1X1000 : UInt16
  kp2X1000 : UInt16
  ki2X1000 : UInt16
  kd2X1000 : UInt16
  deriving DecidableEq, Repr

/-- `dcmt_ops.h`. -/
structure DcmtOps where
  typeId : UInt8
  moduleVerMajor : UInt8
  moduleVerMinor : UInt8
  moduleVerPatch : UInt8
  opSetOpenLoop : UInt8
  opSetBrake : UInt8
  opSetMode : UInt8
  opSetSetpoint : UInt8
  opSetPid : UInt8
  opGetState : UInt8
  modeOpenLoop : UInt8
  modeClosedPosition : UInt8
  modeClosedSpeed : UInt8
  pidLoopPosition : UInt8
  pidLoopSpeed : UInt8
  capLevel1 : UInt8
  capLevel3 : UInt8
  capBaselineFlags : UInt32
  capOpenLoopControl : UInt32
  capBrakeControl : UInt32
  capClosedLoopPosition : UInt32
  capClosedLoopSpeed : UInt32
  capPidTuning : UInt32
  capCmdWatchdog : UInt32
  capClearWatchdogTrip : UInt32
  capRefuses : UInt32
  parseStatePayload : List UInt8 → Option DcmtStateResult
  setPidPack : DcmtSetPid → List UInt8
  /-- The labels of the mode `switch` in `dcmt::parse_state`. -/
  modesDistinct : [modeOpenLoop, modeClosedPosition, modeClosedSpeed].Nodup

/-- All of it. -/
structure Contracts where
  crumbs : Crumbs
  bread : BreadCommon
  rlht : RlhtOps
  dcmt : DcmtOps
  /-- `anolis::provider_sdk::i2c::claim_key`. -/
  claimKey : String → Nat → String
  /-- `anolis::provider_sdk::i2c::split_bus_query`: path and fault query. -/
  splitBusQuery : String → String × String
  /-- `FaultSpec::parse`, and whether it names any fault. -/
  faultSpecAny : String → Except String Bool
  /-- The labels of the type-id `switch` in `try_parse_bread_type`. -/
  typeIdsDistinct : rlht.typeId ≠ dcmt.typeId

end BreadProvider
