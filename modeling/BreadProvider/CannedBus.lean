import BreadProvider.Transport
import BreadProvider.Adapter.Helpers

/-!
# Provider — the canned bus

`CrumbsCannedBus`: the simulated devices of a mock session. It answers the
CRUMBS wire protocol in bytes: a written frame is decoded and either stages
a reply or is counted as a command, and a read encodes the staged reply and
pads it to the requested count.

Left out: the write counts, the trips and the injected faults that only
tests ask for. A device with any of them queued is a device state.
-/

namespace BreadProvider

open Interaction

variable (c : Contracts) (codec : CrumbsCodec)

namespace CrumbsCannedBus

/-- The output state that GET_STATE reports, changed by applied SETs. -/
structure Outputs where
  dcmtMode : UInt8 := 0
  dcmtM1Pwm : Int16 := 100
  dcmtM2Pwm : Int16 := -100
  rlhtMode : UInt8 := 1
  rlhtSp1DeciC : Int16 := 300
  rlhtSp2DeciC : Int16 := 300
  rlhtOn1Ms : UInt16 := 500
  rlhtOn2Ms : UInt16 := 0
  rlhtPeriod1Ms : UInt16 := 1000
  rlhtPeriod2Ms : UInt16 := 1000
  rlhtTc1 : UInt8 := 1
  rlhtTc2 : UInt8 := 2
  deriving DecidableEq

structure DeviceState where
  typeId : UInt8 := 0
  pendingReplyOpcode : UInt8 := 0
  hasPending : Bool := false
  watchdogTimeoutMs : UInt16 := 0
  watchdogTripped : Bool := false
  watchdogTripCount : UInt8 := 0
  ack : AckRecord := ⟨0, 0, 0, 0⟩
  /-- Status and reason injected for the next command frames, oldest first. -/
  nextOutcomes : List (UInt8 × UInt8) := []
  dropCount : Int := 0
  ackReadSkip : Int := 0
  ackReadFailures : Int := 0
  outputs : Outputs := {}
  deriving DecidableEq

/-! ## The replies -/

def buildRlhtStatePayload (o : Outputs) : List UInt8 :=
  let flags : UInt8 :=
    (if 0 < o.rlhtOn1Ms then c.rlht.flagRelay1On else 0)
      ||| (if 0 < o.rlhtOn2Ms then c.rlht.flagRelay2On else 0)
  let p := appendU8 (appendU8 [] o.rlhtMode) flags
  let p := appendI16Le (appendI16Le p 250) 255
  let p := appendI16Le (appendI16Le p o.rlhtSp1DeciC) o.rlhtSp2DeciC
  let p := appendU16Le (appendU16Le p o.rlhtOn1Ms) o.rlhtOn2Ms
  let p := appendU16Le (appendU16Le p o.rlhtPeriod1Ms) o.rlhtPeriod2Ms
  let tc1 : UInt8 := o.rlhtTc1 &&& 3
  let tc2 : UInt8 := o.rlhtTc2 &&& 3
  appendU8 p (tc1 ||| tc2 <<< 2)

def buildDcmtStatePayload (o : Outputs) : List UInt8 :=
  let invalid := c.bread.invalidI16
  let p := appendU8 [] o.dcmtMode
  let p := appendI16Le (appendI16Le p o.dcmtM1Pwm) o.dcmtM2Pwm
  let p := appendI16Le (appendI16Le p invalid) invalid
  let p := appendI16Le (appendI16Le p 0) 0
  let p := appendI16Le (appendI16Le p invalid) invalid
  appendU8 (appendU8 (appendU8 p 0) 0) 0

/-- The DCMT payload holds the mode and the PWMs where it is read. -/
theorem dcmtStatePayload_reads (o : Outputs) :
    (buildDcmtStatePayload c o)[0]? = some o.dcmtMode ∧
      readI16Le (buildDcmtStatePayload c o) 1 = some o.dcmtM1Pwm ∧
      readI16Le (buildDcmtStatePayload c o) 3 = some o.dcmtM2Pwm := by
  refine ⟨rfl, ?_, ?_⟩
  · exact readI16Le_append [o.dcmtMode] (appendI16Le [] o.dcmtM2Pwm ++ _) _
  · exact readI16Le_append (appendI16Le [o.dcmtMode] o.dcmtM1Pwm) _ _

/-- A relay flag is set where its channel has on-time. -/
def relayFlags (c : Contracts) (o : Outputs) : UInt8 :=
  (if 0 < o.rlhtOn1Ms then c.rlht.flagRelay1On else 0)
    ||| (if 0 < o.rlhtOn2Ms then c.rlht.flagRelay2On else 0)

/-- The RLHT payload holds the outputs where they are read. -/
theorem rlhtStatePayload_reads (o : Outputs) :
    (buildRlhtStatePayload c o)[0]? = some o.rlhtMode ∧
      (buildRlhtStatePayload c o)[1]? = some (relayFlags c o) ∧
      readI16Le (buildRlhtStatePayload c o) 6 = some o.rlhtSp1DeciC ∧
      readI16Le (buildRlhtStatePayload c o) 8 = some o.rlhtSp2DeciC ∧
      readU16Le (buildRlhtStatePayload c o) 10 = some o.rlhtOn1Ms ∧
      readU16Le (buildRlhtStatePayload c o) 12 = some o.rlhtOn2Ms := by
  let head := appendI16Le (appendI16Le [o.rlhtMode, relayFlags c o] 250) 255
  let middle := appendI16Le (appendI16Le head o.rlhtSp1DeciC) o.rlhtSp2DeciC
  refine ⟨rfl, rfl, ?_, ?_, ?_, ?_⟩
  · exact readI16Le_append head _ _
  · exact readI16Le_append (appendI16Le head o.rlhtSp1DeciC) _ _
  · exact readU16Le_append middle _ _
  · exact readU16Le_append (appendU16Le middle o.rlhtOn1Ms) _ _

def buildWatchdogPayload (timeoutMs : UInt16) (tripped : Bool)
    (tripCount : UInt8) : List UInt8 :=
  let p := appendU16Le (appendU8 [] (if timeoutMs ≠ 0 then 1 else 0)) timeoutMs
  appendU8 (appendU8 p (if tripped then 1 else 0)) tripCount

end CrumbsCannedBus

open CrumbsCannedBus

structure CrumbsCannedBus where
  opened : Bool := false
  devices : UInt8 → Option DeviceState := fun _ => none

namespace CrumbsCannedBus

def setDevice (bus : CrumbsCannedBus) (address : UInt8) (dev : DeviceState) :
    CrumbsCannedBus :=
  { bus with
    devices := fun a => if a = address then some dev else bus.devices a }

def addDevice (bus : CrumbsCannedBus) (address typeId : UInt8) :
    CrumbsCannedBus :=
  bus.setDevice address { (bus.devices address).getD {} with typeId }

/-! ## Writes -/

/-- `data[i]` of a message; the caller has checked the length. -/
def byteAt (message : RawFrame) (i : Nat) : UInt8 := message.payload.getD i 0

def i16At (message : RawFrame) (i : Nat) : Int16 :=
  (readI16Le message.payload i).getD 0

/-- `period * duty / 100`, cast to `uint16_t`. -/
def onTime (periodMs : UInt16) (dutyPct : UInt8) : UInt16 :=
  .ofNat (periodMs.toNat * dutyPct.toNat / 100)

/-- What an applied command frame does. -/
def DeviceState.act (dev : DeviceState) (message : RawFrame) : DeviceState :=
  let length := message.payload.length
  let o := dev.outputs
  if dev.typeId = c.dcmt.typeId ∧ message.opcode = c.dcmt.opSetOpenLoop
      ∧ 4 ≤ length then
    { dev with
      outputs := { o with
        dcmtM1Pwm := i16At message 0
        dcmtM2Pwm := i16At message 2 } }
  else if dev.typeId = c.dcmt.typeId ∧ message.opcode = c.dcmt.opSetMode
      ∧ 1 ≤ length then
    { dev with outputs := { o with dcmtMode := byteAt message 0 } }
  else if dev.typeId = c.rlht.typeId ∧ message.opcode = c.rlht.opSetMode
      ∧ 1 ≤ length then
    { dev with outputs := { o with rlhtMode := byteAt message 0 } }
  else if dev.typeId = c.rlht.typeId ∧ message.opcode = c.rlht.opSetSetpoints
      ∧ 4 ≤ length then
    { dev with
      outputs := { o with
        rlhtSp1DeciC := i16At message 0
        rlhtSp2DeciC := i16At message 2 } }
  else if dev.typeId = c.rlht.typeId ∧ message.opcode = c.rlht.opSetOpenDuty
      ∧ 2 ≤ length then
    { dev with
      outputs := { o with
        rlhtOn1Ms := onTime o.rlhtPeriod1Ms (byteAt message 0)
        rlhtOn2Ms := onTime o.rlhtPeriod2Ms (byteAt message 1) } }
  else if dev.typeId = c.rlht.typeId ∧ message.opcode = c.rlht.opSetTcSelect
      ∧ 2 ≤ length then
    { dev with
      outputs := { o with
        rlhtTc1 := byteAt message 0
        rlhtTc2 := byteAt message 1 } }
  else if message.opcode = c.bread.opSetWatchdog ∧ 2 ≤ length then
    { dev with
      watchdogTimeoutMs :=
        (byteAt message 0).toUInt16 ||| (byteAt message 1).toUInt16 <<< 8 }
  else if message.opcode = c.bread.opClearWatchdogTrip
      ∧ length = c.bread.watchdogClearTripPayloadLen then
    { dev with watchdogTripped := false }
  else dev

/-- The acknowledgement record of a counted command frame. -/
def DeviceState.count (dev : DeviceState) (message : RawFrame)
    (status reason : UInt8) : DeviceState :=
  { dev with
    ack := ⟨dev.ack.counter + 1, message.opcode, status, reason⟩ }

/-- A command frame: counted unless it is lost, acted on if applied. -/
def DeviceState.command (dev : DeviceState) (message : RawFrame) :
    DeviceState :=
  if 0 < dev.dropCount then { dev with dropCount := dev.dropCount - 1 }
  else
    match dev.nextOutcomes with
    | [] => (dev.count message c.crumbs.ackApplied 0).act c message
    | (status, reason) :: rest =>
        let dev := { dev.count message status reason with nextOutcomes := rest }
        if status ≠ c.crumbs.ackApplied then dev else dev.act c message

/-- A decoded frame: SET_REPLY stages a reply, any other is a command. -/
def DeviceState.receive (dev : DeviceState) (message : RawFrame) :
    DeviceState :=
  if message.opcode = kSetReplyOpcode ∧ 1 ≤ message.payload.length then
    { dev with
      pendingReplyOpcode := byteAt message 0
      hasPending := true }
  else dev.command c message

def applyWrite (bus : CrumbsCannedBus) (address : UInt8) (data : List UInt8) :
    CrumbsCannedBus :=
  match bus.devices address with
  | none => bus
  | some dev =>
      match codec.decode data with
      | .error _ => bus
      | .ok message => bus.setDevice address (dev.receive c message)

/-! ## Reads -/

/-- The payload of the staged reply, or what is wrong; reading GET_ACK uses
up an injected failure. -/
def DeviceState.replyPayload (dev : DeviceState) :
    Except String (List UInt8) × DeviceState :=
  let opcode := dev.pendingReplyOpcode
  if dev.typeId = c.rlht.typeId ∧ opcode = c.rlht.opGetState then
    (.ok (buildRlhtStatePayload c dev.outputs), dev)
  else if dev.typeId = c.dcmt.typeId ∧ opcode = c.dcmt.opGetState then
    (.ok (buildDcmtStatePayload c dev.outputs), dev)
  else if opcode = c.bread.opGetWatchdog then
    (.ok (buildWatchdogPayload dev.watchdogTimeoutMs dev.watchdogTripped
      dev.watchdogTripCount), dev)
  else if opcode = c.crumbs.cmdGetAck then
    let record :=
      [dev.ack.counter, dev.ack.opcode, dev.ack.status, dev.ack.reason]
    if 0 < dev.ackReadSkip then
      (.ok record, { dev with ackReadSkip := dev.ackReadSkip - 1 })
    else if 0 < dev.ackReadFailures then
      (.error "canned bus: injected GET_ACK read failure",
        { dev with ackReadFailures := dev.ackReadFailures - 1 })
    else (.ok record, dev)
  else (.error "canned bus: no canned response for requested reply", dev)

/-- The frame that carries a reply. -/
def DeviceState.replyFrame (dev : DeviceState) (payload : List UInt8) :
    RawFrame :=
  { typeId := dev.typeId, opcode := dev.pendingReplyOpcode, payload }

/-- The first `length` bytes of the encoded reply, 0xFF behind it. -/
def padded (encoded : List UInt8) (length : Nat) : List UInt8 :=
  (encoded ++ List.replicate (length - encoded.length) 0xFF).take length

def emitReply (bus : CrumbsCannedBus) (address : UInt8) (length : Nat) :
    (I2cStatus × List UInt8) × CrumbsCannedBus :=
  if length = 0 then
    ((.failure .invalidArgument "canned read requires rx buffer", []), bus)
  else
    match bus.devices address with
    | none =>
        ((.failure .busError "canned bus: no seeded device at address", []),
          bus)
    | some dev =>
        if !dev.hasPending then
          ((.failure .busError "canned bus: no query pending for address", []),
            bus)
        else
          match dev.replyPayload c with
          | (.error message, dev') =>
              ((.failure .busError message, []), bus.setDevice address dev')
          | (.ok payload, dev') =>
              let encoded := codec.encode (dev.replyFrame payload)
              if encoded.isEmpty then
                ((.failure .busError "canned bus: failed to encode reply", []),
                  bus.setDevice address dev')
              else
                ((.success, padded encoded length),
                  bus.setDevice address dev')

/-! ## The bus operations -/

def busNotOpen : I2cStatus := .failure .notOpen "bus not open"

def write (bus : CrumbsCannedBus) (address : UInt8) (data : List UInt8) :
    I2cStatus × CrumbsCannedBus :=
  if !bus.opened then (busNotOpen, bus)
  else if data.length = 0 then
    (.failure .invalidArgument "write requires tx_len>0", bus)
  else (.success, bus.applyWrite c codec address data)

def read (bus : CrumbsCannedBus) (address : UInt8) (length : Nat) :
    (I2cStatus × List UInt8) × CrumbsCannedBus :=
  if !bus.opened then ((busNotOpen, []), bus)
  else bus.emitReply c codec address length

/-- `CrumbsCannedBus` as the bus below a transport. -/
def answer : (o : I2cOp) → CrumbsCannedBus → o.Ans × CrumbsCannedBus
  | .openBus, bus => (.success, { bus with opened := true })
  | .close, bus => ((), { bus with opened := false })
  | .write address data, bus => bus.write c codec address data
  | .read address length _, bus => bus.read c codec address length
  | .delayUs _, bus => ((), bus)

end CrumbsCannedBus

end BreadProvider
