import BreadProvider.Board
import BreadProvider.CannedBus.Serving

/-!
# Provider — what a canned device holds

The canned bus with the faults tests inject. Over any sequence of operations
the GET_ACK record of a device is that of the last command frame that was not
lost, and what GET_STATE and GET_WATCHDOG report changes only through applied
frames, each changing its own fields.
-/

namespace BreadProvider

open Interaction

variable (c : Contracts) (codec : CrumbsCodec)

namespace CrumbsCannedBus

/-! ## Faults and trips -/

/-- `devices_[address]`, which makes the device if it is not there. -/
def updateDevice (bus : CrumbsCannedBus) (address : UInt8)
    (f : DeviceState → DeviceState) : CrumbsCannedBus :=
  bus.setDevice address (f ((bus.devices address).getD {}))

/-- The next command frame gets this outcome and is not acted on. -/
def DeviceState.queueOutcome (status reason : UInt8) (dev : DeviceState) :
    DeviceState :=
  { dev with nextOutcomes := dev.nextOutcomes ++ [(status, reason)] }

def refuseNext (bus : CrumbsCannedBus) (address reason : UInt8) :
    CrumbsCannedBus :=
  bus.updateDevice address (.queueOutcome c.crumbs.ackRefused reason)

def rejectNext (bus : CrumbsCannedBus) (address reason : UInt8) :
    CrumbsCannedBus :=
  bus.updateDevice address (.queueOutcome c.crumbs.ackRejected reason)

def dropNext (bus : CrumbsCannedBus) (address : UInt8) (count : Int) :
    CrumbsCannedBus :=
  bus.updateDevice address fun dev =>
    { dev with dropCount := dev.dropCount + count }

def failAckReads (bus : CrumbsCannedBus) (address : UInt8)
    (count skip : Int) : CrumbsCannedBus :=
  bus.updateDevice address fun dev =>
    { dev with ackReadSkip := skip, ackReadFailures := count }

def tripWatchdog (bus : CrumbsCannedBus) (address : UInt8) : CrumbsCannedBus :=
  match bus.devices address with
  | none => bus
  | some dev =>
      bus.setDevice address
        { dev with
          watchdogTripped := true
          watchdogTripCount := dev.watchdogTripCount + 1 }

def writeThenRead (bus : CrumbsCannedBus) (address : UInt8)
    (data : List UInt8) (length : Nat) :
    (I2cStatus × List UInt8) × CrumbsCannedBus :=
  if !bus.opened then ((busNotOpen, []), bus)
  else
    let bus :=
      if 0 < data.length then bus.applyWrite c codec address data else bus
    if length = 0 then ((.success, []), bus)
    else bus.emitReply c codec address length

end CrumbsCannedBus

open CrumbsCannedBus

/-- What is done to a canned bus, over the bus or by a test. -/
inductive CannedOp where
  | openBus
  | close
  | write (address : UInt8) (data : List UInt8)
  | read (address : UInt8) (length : Nat)
  | writeThenRead (address : UInt8) (data : List UInt8) (length : Nat)
  | tripWatchdog (address : UInt8)
  | refuseNext (address reason : UInt8)
  | rejectNext (address reason : UInt8)
  | dropNext (address : UInt8) (count : Int)
  | failAckReads (address : UInt8) (count skip : Int)
  deriving DecidableEq

namespace CannedOp

def address : CannedOp → Option UInt8
  | .openBus | .close => none
  | .write address _ | .read address _ | .writeThenRead address _ _
  | .tripWatchdog address | .refuseNext address _ | .rejectNext address _
  | .dropNext address _ | .failAckReads address _ _ => some address

/-- The bytes an operation writes, and where. -/
def written : CannedOp → Option (UInt8 × List UInt8)
  | .write address data | .writeThenRead address data _ => some (address, data)
  | _ => none

end CannedOp

namespace CrumbsCannedBus

/-- The bus after an operation. -/
def step (bus : CrumbsCannedBus) : CannedOp → CrumbsCannedBus
  | .openBus => (answer c codec .openBus bus).2
  | .close => (answer c codec .close bus).2
  | .write address data => (bus.write c codec address data).2
  | .read address length => (bus.read c codec address length).2
  | .writeThenRead address data length =>
      (bus.writeThenRead c codec address data length).2
  | .tripWatchdog address => bus.tripWatchdog address
  | .refuseNext address reason => bus.refuseNext c address reason
  | .rejectNext address reason => bus.rejectNext c address reason
  | .dropNext address count => bus.dropNext address count
  | .failAckReads address count skip => bus.failAckReads address count skip

def after (bus : CrumbsCannedBus) (ops : List CannedOp) : CrumbsCannedBus :=
  ops.foldl (step c codec) bus

/-! ## What becomes of a frame -/

/-- What a device does with a frame that reaches it. -/
inductive Fate where
  | query
  | lost
  /-- Counted with an outcome that a test asked for. -/
  | injected (status reason : UInt8)
  | applied
  deriving DecidableEq

def DeviceState.fate (dev : DeviceState) (message : RawFrame) : Fate :=
  if message.IsQuery then .query
  else if 0 < dev.dropCount then .lost
  else
    match dev.nextOutcomes with
    | [] => .applied
    | (status, reason) :: _ => .injected status reason

/-- The record a frame leaves, where it is counted. -/
def Fate.outcome : Fate → Option (UInt8 × UInt8)
  | .query | .lost => none
  | .injected status reason => some (status, reason)
  | .applied => some (c.crumbs.ackApplied, 0)

/-- The frame that reaches the device at `address`: one an open bus is handed
and can decode. -/
def arrival (bus : CrumbsCannedBus) (address : UInt8) (op : CannedOp) :
    Option RawFrame :=
  match op.written with
  | none => none
  | some (target, data) =>
      if bus.opened = true ∧ data ≠ [] ∧ target = address then
        (codec.decode data).toOption
      else none

/-! ## The fields -/

/-- What GET_STATE and GET_WATCHDOG report. -/
inductive Field where
  | dcmtMode | dcmtM1Pwm | dcmtM2Pwm
  | rlhtMode | rlhtSp1DeciC | rlhtSp2DeciC
  | rlhtOn1Ms | rlhtOn2Ms | rlhtPeriod1Ms | rlhtPeriod2Ms
  | rlhtTc1 | rlhtTc2
  | watchdogTimeoutMs | watchdogTripped | watchdogTripCount
  deriving DecidableEq

abbrev Field.Value : Field → Type
  | .dcmtMode | .rlhtMode | .rlhtTc1 | .rlhtTc2 | .watchdogTripCount => UInt8
  | .dcmtM1Pwm | .dcmtM2Pwm | .rlhtSp1DeciC | .rlhtSp2DeciC => Int16
  | .rlhtOn1Ms | .rlhtOn2Ms | .rlhtPeriod1Ms | .rlhtPeriod2Ms
  | .watchdogTimeoutMs => UInt16
  | .watchdogTripped => Bool

def DeviceState.get (dev : DeviceState) : (f : Field) → f.Value
  | .dcmtMode => dev.outputs.dcmtMode
  | .dcmtM1Pwm => dev.outputs.dcmtM1Pwm
  | .dcmtM2Pwm => dev.outputs.dcmtM2Pwm
  | .rlhtMode => dev.outputs.rlhtMode
  | .rlhtSp1DeciC => dev.outputs.rlhtSp1DeciC
  | .rlhtSp2DeciC => dev.outputs.rlhtSp2DeciC
  | .rlhtOn1Ms => dev.outputs.rlhtOn1Ms
  | .rlhtOn2Ms => dev.outputs.rlhtOn2Ms
  | .rlhtPeriod1Ms => dev.outputs.rlhtPeriod1Ms
  | .rlhtPeriod2Ms => dev.outputs.rlhtPeriod2Ms
  | .rlhtTc1 => dev.outputs.rlhtTc1
  | .rlhtTc2 => dev.outputs.rlhtTc2
  | .watchdogTimeoutMs => dev.watchdogTimeoutMs
  | .watchdogTripped => dev.watchdogTripped
  | .watchdogTripCount => dev.watchdogTripCount

/-- The opcode that sets a field; the periods and the trip count have none. -/
def Field.opcode : Field → Option UInt8
  | .dcmtMode => some c.dcmt.opSetMode
  | .dcmtM1Pwm | .dcmtM2Pwm => some c.dcmt.opSetOpenLoop
  | .rlhtMode => some c.rlht.opSetMode
  | .rlhtSp1DeciC | .rlhtSp2DeciC => some c.rlht.opSetSetpoints
  | .rlhtOn1Ms | .rlhtOn2Ms => some c.rlht.opSetOpenDuty
  | .rlhtTc1 | .rlhtTc2 => some c.rlht.opSetTcSelect
  | .watchdogTimeoutMs => some c.bread.opSetWatchdog
  | .watchdogTripped => some c.bread.opClearWatchdogTrip
  | .rlhtPeriod1Ms | .rlhtPeriod2Ms | .watchdogTripCount => none

/-- The family whose boards have the field, where it is of one family. -/
def Field.family : Field → Option UInt8
  | .dcmtMode | .dcmtM1Pwm | .dcmtM2Pwm => some c.dcmt.typeId
  | .rlhtMode | .rlhtSp1DeciC | .rlhtSp2DeciC | .rlhtOn1Ms | .rlhtOn2Ms
  | .rlhtPeriod1Ms | .rlhtPeriod2Ms | .rlhtTc1 | .rlhtTc2 =>
      some c.rlht.typeId
  | .watchdogTimeoutMs | .watchdogTripped | .watchdogTripCount => none

variable {c} {codec}

/-- The outputs and the watchdog fields are all the fields there are. -/
theorem DeviceState.get_congr {dev dev' : DeviceState}
    (houtputs : dev'.outputs = dev.outputs)
    (htimeout : dev'.watchdogTimeoutMs = dev.watchdogTimeoutMs)
    (htripped : dev'.watchdogTripped = dev.watchdogTripped)
    (hcount : dev'.watchdogTripCount = dev.watchdogTripCount) (f : Field) :
    dev'.get f = dev.get f := by
  cases f with
  | watchdogTimeoutMs => exact htimeout
  | watchdogTripped => exact htripped
  | watchdogTripCount => exact hcount
  | _ => simp only [get, houtputs]

/-- An applied frame changes the fields of its own opcode, on a board of
their family. -/
theorem DeviceState.act_own {dev : DeviceState} {message : RawFrame} {f : Field}
    (h : (dev.act c message).get f ≠ dev.get f) :
    f.opcode c = some message.opcode ∧
      ∀ family, f.family c = some family → dev.typeId = family := by
  unfold act at h
  dsimp only at h
  split_ifs at h with hcond hcond hcond hcond hcond hcond hcond hcond
  case neg => exact absurd rfl h
  all_goals
    cases f
    all_goals first
      | exact absurd rfl h
      | exact ⟨congrArg some hcond.2.1.symm, fun _ h => hcond.1.trans
          (Option.some.inj h)⟩
      | exact ⟨congrArg some hcond.1.symm, by rintro _ ⟨⟩⟩

/-- Only a CLEAR_WATCHDOG_TRIP of the right length releases a trip. -/
theorem DeviceState.act_releases {dev : DeviceState} {message : RawFrame}
    (h : dev.watchdogTripped = true)
    (h' : (dev.act c message).watchdogTripped = false) :
    message.opcode = c.bread.opClearWatchdogTrip ∧
      message.payload.length = c.bread.watchdogClearTripPayloadLen := by
  by_cases hclear : message.opcode = c.bread.opClearWatchdogTrip ∧
      message.payload.length = c.bread.watchdogClearTripPayloadLen
  · exact hclear
  · have hkept : (dev.act c message).watchdogTripped = dev.watchdogTripped := by
      unfold act
      dsimp only
      split_ifs <;> rfl
    rw [hkept, h] at h'
    exact absurd h'.symm Bool.false_ne_true

theorem DeviceState.act_nextOutcomes (dev : DeviceState) (message : RawFrame) :
    (dev.act c message).nextOutcomes = dev.nextOutcomes := by
  obtain ⟨_, _, _, h⟩ := @act_eq c dev message
  rw [h]

/-! ## What a frame leaves -/

/-- The device after a frame, by what became of it. -/
theorem DeviceState.receive_fate (dev : DeviceState) (message : RawFrame) :
    dev.receive c message =
      match dev.fate message with
      | .query =>
          { dev with
            pendingReplyOpcode := byteAt message 0
            hasPending := true }
      | .lost => { dev with dropCount := dev.dropCount - 1 }
      | .injected status reason =>
          let dev :=
            { dev.count message status reason with
              nextOutcomes := dev.nextOutcomes.tail }
          if status ≠ c.crumbs.ackApplied then dev else dev.act c message
      | .applied => (dev.count message c.crumbs.ackApplied 0).act c message := by
  unfold fate
  by_cases hquery : message.IsQuery
  · have hcond : message.opcode = kSetReplyOpcode ∧ 1 ≤ message.payload.length :=
      ⟨hquery.1, List.length_pos_iff.mpr hquery.2⟩
    rw [if_pos hquery, receive, if_pos hcond]
  · have hcond : ¬ (message.opcode = kSetReplyOpcode ∧
        1 ≤ message.payload.length) := by
      rintro ⟨hop, hlen⟩
      exact hquery ⟨hop, List.length_pos_iff.mp hlen⟩
    rw [if_neg hquery, receive, if_neg hcond, command]
    by_cases hdrop : 0 < dev.dropCount
    · rw [if_pos hdrop, if_pos hdrop]
    · rw [if_neg hdrop, if_neg hdrop]
      cases hnext : dev.nextOutcomes with
      | nil => rfl
      | cons head rest => rfl

/-- What GET_ACK tells of a counted command frame. -/
structure Counted where
  opcode : UInt8
  status : UInt8
  reason : UInt8
  deriving DecidableEq

def Counted.record (k : Counted) (counter : UInt8) : AckRecord :=
  ⟨counter, k.opcode, k.status, k.reason⟩

variable (c) in
/-- How a frame is counted, if it is. -/
def DeviceState.counts (dev : DeviceState) (message : RawFrame) :
    Option Counted :=
  ((dev.fate message).outcome c).map fun outcome =>
    ⟨message.opcode, outcome.1, outcome.2⟩

theorem DeviceState.receive_ack (dev : DeviceState) (message : RawFrame) :
    (dev.receive c message).ack =
      match dev.counts c message with
      | none => dev.ack
      | some k => k.record (dev.ack.counter + 1) := by
  rw [receive_fate, counts]
  cases dev.fate message with
  | query | lost => rfl
  | injected status reason =>
      by_cases hs : status ≠ c.crumbs.ackApplied
      · simp only [if_pos hs]
        rfl
      · simp only [if_neg hs, act_ack]
        rfl
  | applied => exact act_ack

/-- A frame that is not applied changes no field. -/
theorem DeviceState.receive_quiet {dev : DeviceState} {message : RawFrame}
    (h : dev.fate message ≠ .applied)
    (hnext : ∀ x ∈ dev.nextOutcomes, x.1 ≠ c.crumbs.ackApplied) (f : Field) :
    (dev.receive c message).get f = dev.get f := by
  rw [receive_fate]
  cases hfate : dev.fate message with
  | query | lost => exact get_congr rfl rfl rfl rfl f
  | injected status reason =>
      have hs : status ≠ c.crumbs.ackApplied := by
        unfold fate at hfate
        split_ifs at hfate
        cases hqueue : dev.nextOutcomes with
        | nil =>
            rw [hqueue] at hfate
            cases hfate
        | cons head rest =>
            rw [hqueue] at hfate
            obtain ⟨rfl, -⟩ := Fate.injected.inj hfate
            exact hnext head (by simp [hqueue])
      simp only [if_pos hs]
      exact get_congr rfl rfl rfl rfl f
  | applied => exact absurd hfate h

/-- The injected outcomes are used up from the front. -/
theorem DeviceState.receive_nextOutcomes (dev : DeviceState)
    (message : RawFrame) :
    (dev.receive c message).nextOutcomes ⊆ dev.nextOutcomes := by
  rw [receive_fate]
  cases dev.fate message with
  | query | lost => exact List.Subset.refl _
  | injected status reason =>
      dsimp only
      split
      · exact List.tail_subset _
      · rw [act_nextOutcomes]
        exact List.tail_subset _
  | applied =>
      dsimp only
      rw [act_nextOutcomes]
      exact List.Subset.refl _

/-! ## One operation -/

theorem applyWrite_eq (bus : CrumbsCannedBus) (address : UInt8)
    (data : List UInt8) :
    bus.applyWrite c codec address data =
      match (codec.decode data).toOption with
      | none => bus
      | some message => bus.deliver c address message := by
  unfold applyWrite deliver
  cases bus.devices address with
  | none => cases codec.decode data <;> rfl
  | some dev => cases codec.decode data <;> rfl

/-- A write is a delivery of the frame that arrives. -/
theorem write_state (bus : CrumbsCannedBus) (address : UInt8)
    (data : List UInt8) :
    (bus.write c codec address data).2 =
      match arrival codec bus address (.write address data) with
      | none => bus
      | some message => bus.deliver c address message := by
  by_cases hopen : bus.opened = true
  · by_cases hdata : data = []
    · have hnone : arrival codec bus address (.write address data) = none := by
        simp [arrival, CannedOp.written, hdata]
      rw [hnone, hdata, write]
      split_ifs with _ hempty
      · rfl
      · rfl
      · exact absurd rfl hempty
    · have hlen : ¬ data.length = 0 := fun h => hdata (List.length_eq_zero_iff.mp h)
      simp only [write, arrival, CannedOp.written, hopen, hdata, hlen,
        Bool.not_true, Bool.false_eq_true, if_false, if_true, ne_eq,
        not_false_eq_true, and_self]
      exact applyWrite_eq bus address data
  · simp [write, arrival, CannedOp.written, hopen]

/-- Writing and then reading in one is doing the one after the other. -/
theorem writeThenRead_state (bus : CrumbsCannedBus) (address : UInt8)
    (data : List UInt8) (length : Nat) :
    (bus.writeThenRead c codec address data length).2
      = ((bus.write c codec address data).2.read c codec address length).2 := by
  by_cases hopen : bus.opened = true
  · have hkept : (bus.applyWrite c codec address data).opened = true := by
      rw [applyWrite_eq]
      split
      · exact hopen
      · exact (deliver_opened _ _ _).trans hopen
    by_cases hdata : data = []
    · by_cases hlen : length = 0
      · simp [writeThenRead, write, read, emitReply, hopen, hdata, hlen]
      · simp [writeThenRead, write, read, hopen, hdata, hlen]
    · have hpos : 0 < data.length := List.length_pos_iff.mpr hdata
      by_cases hlen : length = 0
      · simp [writeThenRead, write, read, emitReply, hopen, hdata, hpos, hlen,
          hkept]
      · simp [writeThenRead, write, read, hopen, hdata, hpos, hlen, hkept]
  · simp [writeThenRead, write, read, hopen]

/-- Nothing a frame could have done happened to the device. -/
structure DeviceState.Idle (dev dev' : DeviceState) : Prop where
  ack : dev'.ack = dev.ack
  nextOutcomes : dev'.nextOutcomes = dev.nextOutcomes
  fields : ∀ f, dev'.get f = dev.get f

theorem DeviceState.Idle.refl (dev : DeviceState) : dev.Idle dev :=
  ⟨rfl, rfl, fun _ => rfl⟩

theorem DeviceState.replyPayload_idle (dev : DeviceState) :
    dev.Idle (dev.replyPayload c).2 := by
  unfold replyPayload
  dsimp only
  split_ifs <;> exact ⟨rfl, rfl, get_congr rfl rfl rfl rfl⟩

/-- A read leaves the device as it was, the GET_ACK failures apart. -/
theorem read_device {bus : CrumbsCannedBus} {address : UInt8}
    {dev : DeviceState} (hdev : bus.devices address = some dev)
    (target : UInt8) (length : Nat) :
    ∃ dev', (bus.read c codec target length).2.devices address = some dev' ∧
      dev.Idle dev' := by
  rcases @read_cases c codec bus target length with
    ⟨hsame, -⟩ | ⟨dev₁, hdev₁, hbus, -⟩
  · exact ⟨dev, hsame.symm ▸ hdev, .refl dev⟩
  · rw [hbus]
    by_cases htarget : address = target
    · subst htarget
      obtain rfl := Option.some.inj (hdev.symm.trans hdev₁)
      exact ⟨_, setDevice_self _ _ _, dev.replyPayload_idle⟩
    · exact ⟨dev, (setDevice_ne bus _ htarget).trans hdev, .refl dev⟩

theorem deliver_device {bus : CrumbsCannedBus} {address : UInt8}
    {dev : DeviceState} (hdev : bus.devices address = some dev)
    (message : RawFrame) :
    (bus.deliver c address message).devices address
      = some (dev.receive c message) := by
  rw [deliver, hdev]
  exact setDevice_self _ _ _

/-- The device after what arrives, if anything. -/
def DeviceState.took (c : Contracts) (dev : DeviceState)
    (arrived : Option RawFrame) : DeviceState :=
  match arrived with
  | none => dev
  | some message => dev.receive c message

theorem write_device {bus : CrumbsCannedBus} {address : UInt8}
    {dev : DeviceState} (hdev : bus.devices address = some dev)
    (target : UInt8) (data : List UInt8) :
    (bus.write c codec target data).2.devices address
      = some (dev.took c (arrival codec bus address (.write target data))) := by
  rw [write_state]
  by_cases htarget : target = address
  · subst htarget
    cases arrival codec bus target (.write target data) with
    | none => exact hdev
    | some message => exact deliver_device hdev message
  · have hnone : arrival codec bus address (.write target data) = none := by
      simp [arrival, CannedOp.written, htarget]
    rw [hnone]
    cases arrival codec bus target (.write target data) with
    | none => exact hdev
    | some message => exact (deliver_ne bus message htarget).trans hdev

/-- What an operation leaves of a device: what arrived was received, and
beyond that a trip, an injected outcome, or nothing. -/
inductive Leaves (c : Contracts) (address : UInt8) (op : CannedOp)
    (arrived : Option RawFrame) (dev : DeviceState) : DeviceState → Prop where
  | took {dev' : DeviceState} (hidle : (dev.took c arrived).Idle dev') :
      Leaves c address op arrived dev dev'
  | tripped (hop : op = .tripWatchdog address) (hnone : arrived = none) :
      Leaves c address op arrived dev
        { dev with
          watchdogTripped := true
          watchdogTripCount := dev.watchdogTripCount + 1 }
  | queued {status reason : UInt8} (hnone : arrived = none)
      (hstatus : status = c.crumbs.ackRefused ∨ status = c.crumbs.ackRejected) :
      Leaves c address op arrived dev (dev.queueOutcome status reason)

theorem updateDevice_device {bus : CrumbsCannedBus} {address : UInt8}
    {dev : DeviceState} (hdev : bus.devices address = some dev)
    (target : UInt8) (f : DeviceState → DeviceState) :
    (bus.updateDevice target f).devices address
      = some (if address = target then f dev else dev) := by
  unfold updateDevice
  by_cases htarget : address = target
  · subst htarget
    rw [setDevice_self, hdev, if_pos rfl]
    rfl
  · rw [setDevice_ne bus _ htarget, if_neg htarget, hdev]

/-- A device stays where it is, and one operation leaves this of it. -/
theorem step_device {bus : CrumbsCannedBus} {address : UInt8}
    {dev : DeviceState} (hdev : bus.devices address = some dev)
    (op : CannedOp) :
    ∃ dev', (bus.step c codec op).devices address = some dev' ∧
      Leaves c address op (arrival codec bus address op) dev dev' := by
  have hsame : ∀ {bus' : CrumbsCannedBus},
      bus'.devices address = some dev → arrival codec bus address op = none →
      ∃ dev', bus'.devices address = some dev' ∧
        Leaves c address op (arrival codec bus address op) dev dev' := by
    intro bus' h hnone
    rw [hnone]
    exact ⟨dev, h, .took (.refl dev)⟩
  have hupdate : ∀ (target : UInt8) (f : DeviceState → DeviceState),
      arrival codec bus address op = none →
      (address = target → Leaves c address op none dev (f dev)) →
      ∃ dev', (bus.updateDevice target f).devices address = some dev' ∧
        Leaves c address op (arrival codec bus address op) dev dev' := by
    intro target f hnone hf
    rw [updateDevice_device hdev target f, hnone]
    by_cases htarget : address = target
    · rw [if_pos htarget]
      exact ⟨f dev, rfl, hf htarget⟩
    · rw [if_neg htarget]
      exact ⟨dev, rfl, .took (.refl dev)⟩
  cases op with
  | openBus | close => exact hsame hdev rfl
  | write target data =>
      exact ⟨_, write_device hdev target data, .took (.refl _)⟩
  | read target length =>
      obtain ⟨dev', hread, hidle⟩ := read_device hdev target length
      exact ⟨dev', hread, .took hidle⟩
  | writeThenRead target data length =>
      have hwrite : (bus.write c codec target data).2.devices address = some _ :=
        write_device hdev target data
      obtain ⟨dev', hread, hidle⟩ := read_device hwrite target length
      refine ⟨dev', ?_, .took hidle⟩
      rw [step, writeThenRead_state]
      exact hread
  | tripWatchdog target =>
      rw [step, tripWatchdog]
      cases htrip : bus.devices target with
      | none => exact hsame hdev rfl
      | some dev₁ =>
          by_cases htarget : address = target
          · subst htarget
            obtain rfl := Option.some.inj (hdev.symm.trans htrip)
            exact ⟨_, setDevice_self _ _ _, .tripped rfl rfl⟩
          · exact hsame ((setDevice_ne bus _ htarget).trans hdev) rfl
  | refuseNext target reason =>
      exact hupdate target _ rfl fun _ => .queued rfl (.inl rfl)
  | rejectNext target reason =>
      exact hupdate target _ rfl fun _ => .queued rfl (.inr rfl)
  | dropNext target count =>
      refine hupdate target (fun dev =>
        { dev with dropCount := dev.dropCount + count }) rfl ?_
      intro _
      exact .took ⟨rfl, rfl, DeviceState.get_congr rfl rfl rfl rfl⟩
  | failAckReads target count skip =>
      refine hupdate target (fun dev =>
        { dev with ackReadSkip := skip, ackReadFailures := count }) rfl ?_
      intro _
      exact .took ⟨rfl, rfl, DeviceState.get_congr rfl rfl rfl rfl⟩

/-- An operation at one address changes no other device. -/
theorem step_ne (bus : CrumbsCannedBus) {op : CannedOp} {address : UInt8}
    (h : op.address ≠ some address) :
    (bus.step c codec op).devices address = bus.devices address := by
  have hne : ∀ {target : UInt8}, some target ≠ some address →
      address ≠ target := by
    rintro target h rfl
    exact h rfl
  have hread : ∀ (bus : CrumbsCannedBus) {target : UInt8} (length : Nat),
      address ≠ target → (bus.read c codec target length).2.devices address
        = bus.devices address := by
    intro bus target length htarget
    rcases @read_cases c codec bus target length with
      ⟨hsame, -⟩ | ⟨dev, -, hbus, -⟩
    · rw [hsame]
    · rw [hbus, setDevice_ne bus _ htarget]
  have hwrite : ∀ {target : UInt8} (data : List UInt8), address ≠ target →
      (bus.write c codec target data).2.devices address
        = bus.devices address := by
    intro target data htarget
    rw [write_state]
    cases arrival codec bus target (.write target data) with
    | none => rfl
    | some message => exact deliver_ne bus message (Ne.symm htarget)
  cases op with
  | openBus | close => rfl
  | write target data => exact hwrite data (hne h)
  | read target length => exact hread bus length (hne h)
  | writeThenRead target data length =>
      rw [step, writeThenRead_state, hread _ length (hne h), hwrite data (hne h)]
  | tripWatchdog target =>
      rw [step, tripWatchdog]
      cases bus.devices target with
      | none => rfl
      | some dev => exact setDevice_ne bus _ (hne h)
  | refuseNext target _ | rejectNext target _ | dropNext target _
  | failAckReads target _ _ => exact setDevice_ne bus _ (hne h)

/-! ## Whole sequences -/

variable (c) (codec) in
/-- How the frame an operation brings is counted, if it is. -/
def countedAt (bus : CrumbsCannedBus) (address : UInt8) (op : CannedOp) :
    Option Counted :=
  (bus.devices address).bind fun dev =>
    (arrival codec bus address op).bind (dev.counts c)

variable (c) (codec) in
/-- The command frames counted at `address`: those that were not lost. -/
def history (bus : CrumbsCannedBus) (address : UInt8) :
    List CannedOp → List Counted
  | [] => []
  | op :: ops =>
      (countedAt c codec bus address op).toList
        ++ history (bus.step c codec op) address ops

theorem history_concat (bus : CrumbsCannedBus) (address : UInt8)
    (ops : List CannedOp) (op : CannedOp) :
    history c codec bus address (ops ++ [op])
      = history c codec bus address ops
        ++ (countedAt c codec (bus.after c codec ops) address op).toList := by
  induction ops generalizing bus with
  | nil => simp [history, after]
  | cons first ops ih =>
      rw [List.cons_append, history, ih, history, List.append_assoc]
      rfl

/-- `[n mod 256, opcode, status, reason]` of the last of `n` counted frames. -/
def ackRecord (counted : List Counted) : AckRecord :=
  match counted.getLast? with
  | none => ⟨0, 0, 0, 0⟩
  | some last => last.record (UInt8.ofNat counted.length)

theorem ackRecord_counter (counted : List Counted) :
    (ackRecord counted).counter = UInt8.ofNat counted.length := by
  unfold ackRecord
  cases h : counted.getLast? with
  | none =>
      rw [List.getLast?_eq_none_iff.mp h]
      rfl
  | some last => rfl

theorem ackRecord_concat (counted : List Counted) (k : Counted) :
    ackRecord (counted ++ [k]) = k.record ((ackRecord counted).counter + 1) := by
  rw [ackRecord_counter, ackRecord, List.getLast?_concat, List.length_append]
  simp [UInt8.ofNat_add]

/-- What is true of a device that has counted these frames. -/
structure DeviceState.Holds (c : Contracts) (dev : DeviceState)
    (counted : List Counted) : Prop where
  record : dev.ack = ackRecord counted
  injected : ∀ x ∈ dev.nextOutcomes,
    x.1 = c.crumbs.ackRefused ∨ x.1 = c.crumbs.ackRejected

/-- One operation counts what arrives. -/
theorem Leaves.holds {address : UInt8} {op : CannedOp}
    {arrived : Option RawFrame} {dev dev' : DeviceState}
    {counted : List Counted} (h : Leaves c address op arrived dev dev')
    (hdev : dev.Holds c counted) :
    dev'.Holds c (counted ++ (arrived.bind (dev.counts c)).toList) := by
  cases h with
  | took hidle =>
      cases arrived with
      | none =>
          simp only [Option.bind_none, Option.toList_none, List.append_nil]
          exact ⟨hidle.ack.trans hdev.record,
            fun x hx => hdev.injected x (hidle.nextOutcomes ▸ hx)⟩
      | some message =>
          constructor
          · rw [hidle.ack]
            show (dev.receive c message).ack = _
            rw [DeviceState.receive_ack, Option.bind_some]
            cases dev.counts c message with
            | none => simpa using hdev.record
            | some k =>
                rw [Option.toList_some, ackRecord_concat, hdev.record]
          · intro x hx
            rw [hidle.nextOutcomes] at hx
            exact hdev.injected x (dev.receive_nextOutcomes message hx)
  | tripped hop hnone =>
      subst hnone
      simp only [Option.bind_none, Option.toList_none, List.append_nil]
      exact ⟨hdev.record, hdev.injected⟩
  | queued hnone hstatus =>
      subst hnone
      simp only [Option.bind_none, Option.toList_none, List.append_nil]
      refine ⟨hdev.record, fun x hx => ?_⟩
      rcases List.mem_append.mp hx with hx | hx
      · exact hdev.injected x hx
      · rw [List.mem_singleton.mp hx]
        exact hstatus

/-- A seeded device is there after any sequence, and has counted its frames. -/
theorem after_holds (seeds : List (UInt8 × UInt8)) {address : UInt8}
    (hseed : address ∈ seeds.map Prod.fst) (ops : List CannedOp) :
    ∃ dev, ((seededBus seeds).after c codec ops).devices address = some dev ∧
      dev.Holds c (history c codec (seededBus seeds) address ops) := by
  induction ops using List.reverseRecOn with
  | nil =>
      obtain ⟨dev, hdev⟩ := seededBus_mem hseed
      obtain ⟨typeId, rfl⟩ := seededBus_fresh hdev
      exact ⟨_, hdev, rfl, List.forall_mem_nil _⟩
  | append_singleton ops op ih =>
      obtain ⟨dev, hdev, hholds⟩ := ih
      obtain ⟨dev', hdev', hleaves⟩ := step_device hdev op
      refine ⟨dev', ?_, ?_⟩
      · rw [after, List.foldl_concat]
        exact hdev'
      · rw [history_concat, countedAt, hdev]
        exact hleaves.holds hholds

/-! ## The device contract -/

/-- What one operation may change of a device. -/
structure DeviceState.Changes (c : Contracts) (address : UInt8) (op : CannedOp)
    (arrived : Option RawFrame) (dev dev' : DeviceState) : Prop where
  /-- No field but for an applied frame or a trip: not for a query, a lost, a
  refused or a rejected frame, one that does not decode, or a read. -/
  quiet : op ≠ .tripWatchdog address →
    (∀ message, arrived = some message → dev.fate message ≠ .applied) →
    ∀ f, dev'.get f = dev.get f
  /-- A frame kept from the device by a test is refused or rejected. -/
  injected : ∀ message status reason, arrived = some message →
    dev.fate message = .injected status reason →
    status = c.crumbs.ackRefused ∨ status = c.crumbs.ackRejected
  /-- An applied frame changes the fields of its own opcode, on a device of
  their family. -/
  own : ∀ message, arrived = some message → dev.fate message = .applied →
    ∀ f, dev'.get f ≠ dev.get f →
      f.opcode c = some message.opcode ∧
        ∀ family, f.family c = some family → dev.typeId = family
  /-- A trip is released by an applied, empty CLEAR_WATCHDOG_TRIP alone. -/
  released : dev.watchdogTripped = true → dev'.watchdogTripped = false →
    ∃ message, arrived = some message ∧ dev.fate message = .applied ∧
      message.opcode = c.bread.opClearWatchdogTrip ∧ message.payload = []

theorem DeviceState.receive_applied {dev : DeviceState} {message : RawFrame}
    (h : dev.fate message = .applied) :
    dev.receive c message
      = (dev.count message c.crumbs.ackApplied 0).act c message := by
  rw [receive_fate, h]

theorem DeviceState.fate_injected {dev : DeviceState} {message : RawFrame}
    {status reason : UInt8} (h : dev.fate message = .injected status reason) :
    ∃ x ∈ dev.nextOutcomes, x.1 = status := by
  unfold fate at h
  split_ifs at h
  cases hqueue : dev.nextOutcomes with
  | nil =>
      rw [hqueue] at h
      cases h
  | cons head rest =>
      rw [hqueue] at h
      obtain ⟨hstatus, -⟩ := Fate.injected.inj h
      exact ⟨head, List.mem_cons_self, hstatus⟩

theorem Leaves.changes (hclear : c.bread.watchdogClearTripPayloadLen = 0)
    (hrefused : c.crumbs.ackRefused ≠ c.crumbs.ackApplied)
    (hrejected : c.crumbs.ackRejected ≠ c.crumbs.ackApplied)
    {address : UInt8} {op : CannedOp} {arrived : Option RawFrame}
    {dev dev' : DeviceState} {counted : List Counted}
    (hdev : dev.Holds c counted) (h : Leaves c address op arrived dev dev') :
    dev.Changes c address op arrived dev' := by
  have hnext : ∀ x ∈ dev.nextOutcomes, x.1 ≠ c.crumbs.ackApplied := by
    intro x hx
    rcases hdev.injected x hx with hx | hx
    · exact hx ▸ hrefused
    · exact hx ▸ hrejected
  -- Short of an applied frame or a trip, the fields stay.
  have hquiet : op ≠ .tripWatchdog address →
      (∀ message, arrived = some message → dev.fate message ≠ .applied) →
      ∀ f, dev'.get f = dev.get f := by
    intro hop hnone f
    cases h with
    | took hidle =>
        rw [hidle.fields f]
        cases arrived with
        | none => rfl
        | some message =>
            exact DeviceState.receive_quiet (hnone message rfl) hnext f
    | tripped htrip _ => exact absurd htrip hop
    | queued _ _ => exact DeviceState.get_congr rfl rfl rfl rfl f
  -- An applied frame ran on the device, and nothing else happened.
  have happlied : ∀ message, arrived = some message →
      dev.fate message = .applied → ∀ f, dev'.get f
        = ((dev.count message c.crumbs.ackApplied 0).act c message).get f := by
    intro message harrived hfate f
    cases h with
    | took hidle =>
        rw [hidle.fields f, harrived, ← DeviceState.receive_applied hfate]
        rfl
    | tripped _ hnone | queued hnone _ =>
        rw [hnone] at harrived
        cases harrived
  refine ⟨hquiet, ?_, ?_, ?_⟩
  · intro message status reason _ hfate
    obtain ⟨x, hx, rfl⟩ := DeviceState.fate_injected hfate
    exact hdev.injected x hx
  · intro message harrived hfate f hchanged
    rw [happlied message harrived hfate f] at hchanged
    exact @DeviceState.act_own c (dev.count message c.crumbs.ackApplied 0)
      message f hchanged
  · intro htripped hreleased
    cases h with
    | took hidle =>
        have htook : (dev.took c arrived).watchdogTripped = false :=
          (hidle.fields .watchdogTripped).symm.trans hreleased
        cases arrived with
        | none => exact absurd (htook.symm.trans htripped) Bool.false_ne_true
        | some message =>
            by_cases hfate : dev.fate message = .applied
            · have hact : ((dev.count message c.crumbs.ackApplied 0).act c
                  message).watchdogTripped = false := by
                rw [← DeviceState.receive_applied hfate]
                exact htook
              have hcounted : (dev.count message c.crumbs.ackApplied
                  0).watchdogTripped = true := htripped
              obtain ⟨hop, hlen⟩ := DeviceState.act_releases hcounted hact
              rw [hclear] at hlen
              exact ⟨message, rfl, hfate, hop, List.length_eq_zero_iff.mp hlen⟩
            · have hkept : (dev.receive c message).watchdogTripped
                  = dev.watchdogTripped :=
                DeviceState.receive_quiet hfate hnext .watchdogTripped
              rw [htripped] at hkept
              exact absurd (htook.symm.trans hkept) Bool.false_ne_true
    | tripped _ _ => exact absurd hreleased.symm Bool.false_ne_true
    | queued _ _ =>
        exact absurd (hreleased.symm.trans htripped) Bool.false_ne_true

/-- Over any sequence, a seeded device shows in its GET_ACK record the last
command frame that was not lost, whatever comes next changes of it what it
may, and what is done at another address leaves it alone. -/
theorem canned_device_invariant (hclear : c.bread.watchdogClearTripPayloadLen = 0)
    (hrefused : c.crumbs.ackRefused ≠ c.crumbs.ackApplied)
    (hrejected : c.crumbs.ackRejected ≠ c.crumbs.ackApplied)
    (seeds : List (UInt8 × UInt8)) (ops : List CannedOp) {address : UInt8}
    (hseed : address ∈ seeds.map Prod.fst) :
    ∃ dev, ((seededBus seeds).after c codec ops).devices address = some dev ∧
      dev.ack = ackRecord (history c codec (seededBus seeds) address ops) ∧
      ∀ op, ∃ dev',
        ((seededBus seeds).after c codec (ops ++ [op])).devices address
          = some dev' ∧
        dev.Changes c address op
          (arrival codec ((seededBus seeds).after c codec ops) address op) dev' ∧
        (op.address ≠ some address → dev' = dev) := by
  obtain ⟨dev, hdev, hholds⟩ := after_holds seeds hseed ops
  refine ⟨dev, hdev, hholds.record, fun op => ?_⟩
  obtain ⟨dev', hdev', hleaves⟩ := step_device hdev op
  refine ⟨dev', ?_, hleaves.changes hclear hrefused hrejected hholds, ?_⟩
  · rw [after, List.foldl_concat]
    exact hdev'
  · intro hother
    rw [step_ne _ hother, hdev] at hdev'
    exact (Option.some.inj hdev').symm

/-- A SET_MODE that is refused, then an empty CLEAR_WATCHDOG_TRIP. -/
def refusedThenCleared : List CannedOp :=
  [.openBus, .tripWatchdog 0x14, .refuseNext 0x14 1,
    .write 0x14 (Reference.encode ⟨0x02, 0x03, [1]⟩),
    .write 0x14 (Reference.encode ⟨0x02, 0x7C, []⟩)]

theorem canned_device_invariant_refused : ∃ dev,
    ((seededBus [(0x14, 0x02)]).after .reference Reference.codec
      refusedThenCleared).devices 0x14 = some dev ∧
    dev.ack = ⟨2, 0x7C, 1, 0⟩ := by
  obtain ⟨dev, hdev, hack, -⟩ := @canned_device_invariant .reference
    Reference.codec (by decide) (by decide) (by decide) [(0x14, 0x02)]
    refusedThenCleared 0x14 List.mem_cons_self
  have hcounted : history .reference Reference.codec
      (seededBus [(0x14, 0x02)]) 0x14 refusedThenCleared
      = [⟨0x03, 2, 1⟩, ⟨0x7C, 1, 0⟩] := by
    decide +kernel
  rw [hcounted] at hack
  exact ⟨dev, hdev, hack⟩

end CrumbsCannedBus

end BreadProvider
