import BreadProvider.Adapter.BrakeCheck
import BreadProvider.CannedBus.Bench
import BreadProvider.Runtime.Frames

/-!
# Provider — one board, as a device program meets it

A board that answers every query with what its state is, and counts and runs
every command once. Against it the programs of a device come out as the bench
says, at the first attempt.
-/

namespace BreadProvider

open Interaction Inventory CrumbsCannedBus

variable {c : Contracts}

/-- What CRUMBS promises of GET_ACK: a record is read back from its reply, and
the next record of a board, of the command sent and APPLIED, says so. -/
structure Crumbs.AckRoundTrip (k : Crumbs) : Prop where
  attempts : 0 < k.ackReadAttempts
  decode : ∀ typeId record, k.ackDecode
    { typeId, opcode := k.cmdGetAck
      payload := [record.counter, record.opcode, record.status,
        record.reason] } = some record
  applied : ∀ (before : AckRecord) opcode, k.ackClassify before
    ⟨before.counter + 1, opcode, k.ackApplied, 0⟩ opcode = .applied

theorem Reference.ackRoundTrip : Reference.crumbs.AckRoundTrip where
  attempts := by decide
  decode typeId record := rfl
  applied before opcode := by
    have hmoved : (⟨before.counter + 1, opcode, 1, 0⟩ : AckRecord) ≠ before :=
      fun h => counter_succ_ne _ (congrArg AckRecord.counter h)
    show Reference.ackClassify before ⟨before.counter + 1, opcode, 1, 0⟩ opcode
      = .applied
    simp [Reference.ackClassify, hmoved]

/-! ## The board -/

/-- A board and its record of commands. -/
structure Line where
  twin : Twin
  ack : AckRecord

namespace Line

/-- It counts a command and runs it. -/
def run (c : Contracts) (type : DeviceType) (l : Line) (frame : RawFrame) :
    Line where
  twin := l.twin.run c type frame
  ack := ⟨l.ack.counter + 1, frame.opcode, c.crumbs.ackApplied, 0⟩

/-- What it says of its state and of its last command. -/
def reply (c : Contracts) (type : DeviceType) (l : Line) (opcode : UInt8) :
    Option (List UInt8) :=
  if opcode = SafeOutputs.getStateOpcode c type then
    some (SafeOutputs.statePayload c type l.twin.outputs)
  else if opcode = c.crumbs.cmdGetAck then
    some [l.ack.counter, l.ack.opcode, l.ack.status, l.ack.reason]
  else none

end Line

/-- A session over the board. -/
def line (c : Contracts) (type : DeviceType) :
    Environment SessionInterface Line
  | .queryRead _ opcode, l, r, l' => l' = l ∧
      ∀ payload, l.reply c type opcode = some payload →
        r.1.ok = true ∧
          r.2 = some { typeId := breadTypeId c type, opcode, payload }
  | .send _ frame, l, r, l' => r.ok = true ∧ l' = l.run c type frame
  | _, l, _, l' => l' = l

theorem Line.reply_state (type : DeviceType) (l : Line) :
    l.reply c type (SafeOutputs.getStateOpcode c type)
      = some (SafeOutputs.statePayload c type l.twin.outputs) :=
  if_pos rfl

theorem Line.reply_ack (hq : c.QueriesDistinct) (type : DeviceType)
    (l : Line) : l.reply c type c.crumbs.cmdGetAck
      = some [l.ack.counter, l.ack.opcode, l.ack.status, l.ack.reason] := by
  have hne : c.crumbs.cmdGetAck ≠ SafeOutputs.getStateOpcode c type := by
    intro h
    cases type with
    | rlht =>
        have hd := hq.rlht
        rw [h] at hd
        simp [SafeOutputs.getStateOpcode] at hd
    | dcmt =>
        have hd := hq.dcmt
        rw [h] at hd
        simp [SafeOutputs.getStateOpcode] at hd
  rw [Line.reply, if_neg hne, if_pos rfl]

/-! ## A confirmed SET -/

section Confirmed

variable {type : DeviceType} {address : UInt8}

/-- The record is read at once. -/
theorem readAck_line (hack : c.crumbs.AckRoundTrip) (hq : c.QueriesDistinct)
    (l : Line) :
    (readAck c address).Ensures (line c type) l fun _ r l' =>
      r = .ok l.ack ∧ l' = l := by
  obtain ⟨more, hmore⟩ : ∃ more, c.crumbs.ackReadAttempts = more + 1 :=
    Nat.exists_eq_succ_of_ne_zero (by have := hack.attempts; omega)
  rw [readAck, hmore, readAckFrom_succ]
  refine Program.ensures_call.mpr fun r l₁ hE => ?_
  obtain ⟨rfl, hreply⟩ := hE
  obtain ⟨hok, hframe⟩ := hreply _ (Line.reply_ack hq type _)
  rw [if_pos hok, hframe, Option.getD_some, hack.decode]
  exact Program.ensures_ret.mpr ⟨rfl, rfl⟩

/-- The first send is counted and applied, and so there is no other. -/
theorem transmitConfirmed_line (hack : c.crumbs.AckRoundTrip)
    (hq : c.QueriesDistinct) (device : InventoryDevice) (frame : RawFrame)
    (op : String) (l : Line) :
    (transmitConfirmed c device frame op).Ensures (line c type) l
      fun _ res l' => res = ranResult c device ∧ l' = l.run c type frame := by
  by_cases hconf : setConfirmation c device = .unconfirmed
  · rw [transmitConfirmed, if_pos hconf]
    refine Program.ensures_call.mpr fun status l₁ hE => ?_
    obtain ⟨hok, rfl⟩ := hE
    change (if status.ok = true then _ else _ :
      Program SessionInterface AdapterCallResult).Ensures _ _ _
    rw [if_pos hok]
    refine Program.ensures_ret.mpr ⟨?_, rfl⟩
    rw [ranResult, if_pos hconf]
  · rw [transmitConfirmed_eq hconf]
    refine (readAck_line hack hq l).bind fun _ r l₁ hr => ?_
    obtain ⟨rfl, rfl⟩ := hr
    show (confirmFrom c _ frame op l₁.ack (2 + 1)).Ensures _ _ _
    rw [confirmFrom_succ]
    refine Program.ensures_call.mpr fun status l₂ hE => ?_
    obtain ⟨-, rfl⟩ := hE
    refine (readAck_line hack hq _).bind fun _ r l₃ hr => ?_
    obtain ⟨rfl, rfl⟩ := hr
    have happlied : c.crumbs.ackClassify l₁.ack (l₁.run c type frame).ack
        frame.opcode = .applied := hack.applied l₁.ack frame.opcode
    dsimp only
    rw [happlied, if_neg (by simp)]
    refine Program.ensures_ret.mpr ⟨?_, rfl⟩
    rw [ranResult, if_neg hconf]
    rfl

end Confirmed

/-! ## The adapters -/

/-- The brake check finds the brakes as the board has them. -/
theorem Dcmt.brakeCheck_line (device : InventoryDevice) (frame : RawFrame)
    (l : Line) :
    (brakeCheck c device frame).Ensures (line c .dcmt) l fun _ found l' =>
      found = brakedBy c (SafeOutputs.statePayload c .dcmt l.twin.outputs)
        frame ∧ l' = l := by
  rw [brakeCheck_eq, brakedBy]
  cases motorCommands c frame with
  | none => exact Program.ensures_ret.mpr ⟨rfl, rfl⟩
  | some commands =>
      refine Program.ensures_call.mpr fun r l₁ hE => ?_
      obtain ⟨rfl, hreply⟩ := hE
      obtain ⟨hok, hframe⟩ := hreply _ (Line.reply_state .dcmt _)
      dsimp only
      rw [hframe, Option.getD_some, if_pos ⟨hok, rfl, rfl⟩]
      exact Program.ensures_ret.mpr ⟨rfl, rfl⟩

theorem transmit_line (hack : c.crumbs.AckRoundTrip) (hq : c.QueriesDistinct)
    (device : InventoryDevice) (frame : RawFrame) (l : Line) :
    ((adapterFor c device.type).transmit device frame).Ensures
      (line c device.type) l fun _ res l' =>
        (res, l'.twin) = l.twin.transmit c device frame := by
  cases htype : device.type with
  | rlht =>
      have hran : l.twin.transmit c device frame
          = (ranResult c device, (l.run c .rlht frame).twin) := by
        rw [Twin.transmit, Twin.refusal, htype]
        rfl
      rw [hran]
      refine (transmitConfirmed_line hack hq device frame _ l).mono ?_
      intro _ res l' hres
      obtain ⟨rfl, rfl⟩ := hres
      rfl
  | dcmt =>
      show (Dcmt.transmit c device frame).Ensures _ _ _
      rw [Dcmt.transmit_eq]
      refine (Dcmt.brakeCheck_line device frame l).bind ?_
      intro _ found l₁ hfound
      obtain ⟨rfl, rfl⟩ := hfound
      rw [Twin.transmit, Twin.refusal, htype]
      cases Dcmt.brakedBy c (SafeOutputs.statePayload c .dcmt l₁.twin.outputs)
          frame with
      | some refusal => exact Program.ensures_ret.mpr rfl
      | none =>
          by_cases hencoders : Dcmt.needsEncoders c device frame = true
          · simp only [hencoders, if_true, Option.none_or]
            exact Program.ensures_ret.mpr rfl
          · simp only [hencoders, Option.none_or]
            refine (transmitConfirmed_line hack hq device frame _ l₁).mono ?_
            intro _ res l' hres
            obtain ⟨rfl, rfl⟩ := hres
            rfl

/-- A read makes of the board's state what the bench does. -/
theorem readSignals_line (device : InventoryDevice) (ids : List String)
    (l : Line) :
    ((adapterFor c device.type).readSignals device ids).Ensures
      (line c device.type) l fun _ br l' =>
        br = l.twin.reading c device ids ∧ l' = l := by
  cases htype : device.type with
  | rlht =>
      show (Rlht.readSignals c device ids).Ensures _ _ _
      rw [Rlht.readSignals_eq, Twin.reading, htype]
      refine Program.ensures_call.mpr fun r l₁ hE => ?_
      obtain ⟨rfl, hreply⟩ := hE
      obtain ⟨hok, hframe⟩ := hreply _ (Line.reply_state .rlht _)
      dsimp only
      rw [hframe, Option.getD_some, hok, if_neg (by simp),
        if_neg (by simp [breadTypeId])]
      unfold Rlht.reading
      cases Rlht.parseState c
        (SafeOutputs.statePayload c .rlht l₁.twin.outputs) with
      | none =>
        exact Program.ensures_call.mpr fun _ _ hE =>
          Program.ensures_ret.mpr ⟨rfl, hE⟩
      | some s =>
        dsimp only
        split
        · exact Program.ensures_call.mpr fun _ _ hE =>
            Program.ensures_ret.mpr ⟨rfl, hE⟩
        · exact Program.ensures_ret.mpr ⟨rfl, rfl⟩
  | dcmt =>
      show (Dcmt.readSignals c device ids).Ensures _ _ _
      rw [Dcmt.readSignals_eq, Twin.reading, htype]
      refine Program.ensures_call.mpr fun r l₁ hE => ?_
      obtain ⟨rfl, hreply⟩ := hE
      obtain ⟨hok, hframe⟩ := hreply _ (Line.reply_state .dcmt _)
      dsimp only
      rw [hframe, Option.getD_some, hok, if_neg (by simp),
        if_neg (by simp [breadTypeId])]
      unfold Dcmt.reading
      cases Dcmt.parseState c
        (SafeOutputs.statePayload c .dcmt l₁.twin.outputs) with
      | none =>
        exact Program.ensures_call.mpr fun _ _ hE =>
          Program.ensures_ret.mpr ⟨rfl, hE⟩
      | some s =>
        exact Program.ensures_ret.mpr ⟨rfl, rfl⟩

/-! ## What start-up and health do -/

theorem driveSteps_line (hack : c.crumbs.AckRoundTrip)
    (hq : c.QueriesDistinct) {device : InventoryDevice}
    {steps : List SafeOutputStep} {frames : List RawFrame}
    (hsteps : List.Forall₂ (SafeOutputs.Unrefused c device) steps frames)
    (r : SafeOutputs.Result) (l : Line) :
    (SafeOutputs.driveSteps c device steps r).Ensures (line c device.type) l
      fun _ _ l' => l'.twin = l.twin.runAll c device.type frames := by
  induction hsteps generalizing r l with
  | nil => exact Program.ensures_ret.mpr rfl
  | cons hstep _ ih =>
      rw [SafeOutputs.driveSteps, hstep.transmits]
      refine (transmitConfirmed_line hack hq device _ _ l).bind ?_
      intro _ sent l₁ hsent
      obtain ⟨-, rfl⟩ := hsent
      exact ih _ _

theorem armIfConfigured_line (device : InventoryDevice) (l : Line) :
    (Watchdog.armIfConfigured c device).Ensures (line c device.type) l
      fun _ _ l' => l'.twin = if Watchdog.Arms c device then
        l.twin.run c device.type (Watchdog.armFrame c device) else l.twin := by
  unfold Watchdog.armIfConfigured
  split
  · refine Program.ensures_call.mpr fun status l₁ hE => ?_
    obtain ⟨-, rfl⟩ := hE
    exact Program.ensures_ret.mpr rfl
  · exact Program.ensures_ret.mpr rfl

/-- Health leaves a board as it is that is armed: it sends nothing, or arms
it again. -/
theorem sessionHealth_line {device : InventoryDevice} {t : Twin}
    (harmed : Watchdog.Arms c device →
      t.run c device.type (Watchdog.armFrame c device) = t)
    (extra : BreadProviderRuntime.DeviceHealthExtra) {l : Line}
    (hl : l.twin = t) :
    (BreadProviderRuntime.sessionHealth c device extra).Ensures
      (line c device.type) l fun _ _ l' => l'.twin = t := by
  refine (BreadProviderRuntime.sessionHealth_every device extra).ensures_inv
    ?_ hl
  intro o l r l' ho hl hE
  cases ho with
  | query opcode =>
      rw [hE.1]
      exact hl
  | send frame hframe =>
      obtain ⟨harms, rfl⟩ := hframe
      rw [hE.2]
      show l.twin.run c device.type _ = t
      rw [hl, harmed harms]
  | reject | stats | failed =>
      obtain rfl := hE
      exact hl

/-! ## What the programs ask -/

/-- The queries a provider makes once it is started. -/
def KnownQuery (c : Contracts) (type : DeviceType) (opcode : UInt8) : Prop :=
  opcode = SafeOutputs.getStateOpcode c type ∨ opcode = c.crumbs.cmdGetAck ∨
    opcode = c.bread.opGetWatchdog

/-- What a started provider asks the session of a device for. -/
inductive Asks (c : Contracts) (device : InventoryDevice) :
    SessionOp → Prop where
  | query (opcode : UInt8) (h : KnownQuery c device.type opcode) :
      Asks c device (.queryRead (addressByte device.address) opcode)
  | send (frame : RawFrame)
      (hlen : frame.payload.length ≤ kMaxPayloadBytes)
      (hcommand : ¬ frame.IsQuery) :
      Asks c device (.send (addressByte device.address) frame)
  | reject : Asks c device (.recordRejection (addressByte device.address))
  | stats : Asks c device (.statsFor (addressByte device.address))
  | failed : Asks c device (.lastOpFailed (addressByte device.address))

section Asks

variable {device : InventoryDevice} {frame : RawFrame}

/-- A frame the session takes as a command. -/
def IsCommand (frame : RawFrame) : Prop :=
  frame.payload.length ≤ kMaxPayloadBytes ∧ ¬ frame.IsQuery

theorem transmitConfirmed_asks (hframe : IsCommand frame) (op : String) :
    (transmitConfirmed c device frame op).Every (Asks c device) := by
  refine (transmitConfirmed_every c device frame op).mono fun o ho => ?_
  cases ho with
  | read => exact .query _ (.inr (.inl rfl))
  | reject => exact .reject
  | send => exact .send frame hframe.1 hframe.2

theorem transmit_asks (hframe : IsCommand frame) :
    ((adapterFor c device.type).transmit device frame).Every
      (Asks c device) := by
  cases htype : device.type with
  | rlht => exact transmitConfirmed_asks hframe _
  | dcmt =>
      show (Dcmt.transmit c device frame).Every _
      rw [Dcmt.transmit_eq, Dcmt.brakeCheck_eq]
      refine Program.Every.bind ?_ fun found => ?_
      · split
        · trivial
        · refine ⟨.query _ (.inl ?_), fun r => ?_⟩
          · rw [htype]
            rfl
          · dsimp only
            split <;> trivial
      · cases found with
        | some refusal => trivial
        | none =>
            dsimp only
            split
            · trivial
            · exact transmitConfirmed_asks hframe _

theorem readSignals_asks (ids : List String) :
    ((adapterFor c device.type).readSignals device ids).Every
      (Asks c device) := by
  have hreject : ∀ message : String, (Rlht.rejectReply
      (addressByte device.address) message).Every (Asks c device) :=
    fun _ => ⟨.reject, fun _ => trivial⟩
  cases htype : device.type with
  | rlht =>
      show (Rlht.readSignals c device ids).Every _
      rw [Rlht.readSignals_eq]
      refine ⟨.query _ (.inl (by rw [htype]; rfl)), fun r => ?_⟩
      dsimp only
      split
      · trivial
      · split
        · exact hreject _
        · split
          · exact hreject _
          · split
            · exact hreject _
            · trivial
  | dcmt =>
      show (Dcmt.readSignals c device ids).Every _
      rw [Dcmt.readSignals_eq]
      refine ⟨.query _ (.inl (by rw [htype]; rfl)), fun r => ?_⟩
      dsimp only
      split
      · trivial
      · split
        · exact hreject _
        · split
          · exact hreject _
          · trivial

theorem driveSteps_asks {steps : List SafeOutputStep}
    {frames : List RawFrame}
    (hsteps : List.Forall₂ (SafeOutputs.Unrefused c device) steps frames)
    (hframes : ∀ frame ∈ frames, IsCommand frame) (r : SafeOutputs.Result) :
    (SafeOutputs.driveSteps c device steps r).Every (Asks c device) := by
  induction hsteps generalizing r with
  | nil => trivial
  | cons hstep _ ih =>
      rw [SafeOutputs.driveSteps, hstep.transmits]
      refine (transmitConfirmed_asks (hframes _ (by simp)) _).bind
        fun sent => ?_
      exact ih (fun f hf => hframes f (List.mem_cons_of_mem _ hf)) _

theorem queryStatus_asks :
    (Watchdog.queryStatus c device).Every (Asks c device) :=
  Watchdog.queryStatus_every (.query _ (.inr (.inr rfl))) .reject

theorem armIfConfigured_asks
    (hframe : IsCommand (Watchdog.armFrame c device)) :
    (Watchdog.armIfConfigured c device).Every (Asks c device) := by
  unfold Watchdog.armIfConfigured
  split
  · exact ⟨.send _ hframe.1 hframe.2, fun _ => trivial⟩
  · trivial

theorem sessionHealth_asks (hframe : IsCommand (Watchdog.armFrame c device))
    (extra : BreadProviderRuntime.DeviceHealthExtra) :
    (BreadProviderRuntime.sessionHealth c device extra).Every
      (Asks c device) := by
  refine ⟨.stats, fun stats => ?_⟩
  show (BreadProviderRuntime.watchdogHealth c device
    (BreadProviderRuntime.addStats stats extra)).Every _
  unfold BreadProviderRuntime.watchdogHealth
  split
  · refine ⟨.failed, fun failed => ?_⟩
    show Program.Every _ (if failed = true then _ else _)
    split
    · trivial
    · refine queryStatus_asks.bind fun answer => ?_
      obtain ⟨status, wd⟩ := answer
      dsimp only
      split
      · refine Program.Every.bind ?_ fun _ => trivial
        unfold Watchdog.rearmIfRebooted
        split
        · trivial
        · exact (armIfConfigured_asks hframe).bind fun _ => trivial
      · trivial
  · trivial

end Asks

/-! ## The frames they send -/

/-- CRUMBS keeps the opcode of SET_REPLY from the commands. -/
structure Contracts.SetReplyReserved (c : Contracts) : Prop where
  rlht : ∀ opcode ∈ [c.rlht.opSetMode, c.rlht.opSetSetpoints,
    c.rlht.opSetPid, c.rlht.opSetPeriods, c.rlht.opSetTcSelect,
    c.rlht.opSetOpenDuty, c.bread.opClearWatchdogTrip,
    c.bread.opSetWatchdog], opcode ≠ kSetReplyOpcode
  dcmt : ∀ opcode ∈ [c.dcmt.opSetOpenLoop, c.dcmt.opSetBrake,
    c.dcmt.opSetMode, c.dcmt.opSetSetpoint, c.dcmt.opSetPid,
    c.bread.opClearWatchdogTrip, c.bread.opSetWatchdog],
    opcode ≠ kSetReplyOpcode

theorem Reference.setReplyReserved : Contracts.reference.SetReplyReserved where
  rlht := by decide +kernel
  dcmt := by decide +kernel

section Frames

variable {args : ValueMap}

/-- Whatever is built fits a frame. -/
def Fits (x : Except AdapterCallResult RawFrame) : Prop :=
  ∀ frame, x = .ok frame → frame.payload.length ≤ kMaxPayloadBytes

theorem Fits.bind {α : Type} {x : Except AdapterCallResult α}
    {f : α → Except AdapterCallResult RawFrame} (h : ∀ a, Fits (f a)) :
    Fits (x >>= f) := by
  intro frame hframe
  obtain ⟨a, -, ha⟩ := Except.bind_eq_ok.mp hframe
  exact h a frame ha

theorem Fits.ret {frame : RawFrame}
    (h : frame.payload.length ≤ kMaxPayloadBytes) : Fits (.ok frame) := by
  intro _ hok
  obtain rfl := Except.ok.inj hok
  exact h

theorem fits_short {typeId opcode : UInt8} {payload : List UInt8} (n : Nat)
    (hlen : payload.length = n) (hn : n ≤ 27) :
    Fits (.ok { typeId, opcode, payload }) :=
  .ret (by rw [hlen]; exact hn)

theorem Rlht.buildFrame_fits {functionId : Nat} :
    Fits (Rlht.buildFrame c functionId args) := by
  unfold Rlht.buildFrame
  split
  · exact .bind fun _ => .bind fun _ => fits_short 1 rfl (by omega)
  · exact .bind fun _ => .bind fun _ => .bind fun _ => .bind fun _ =>
      .bind fun _ => .bind fun _ => fits_short 4 rfl (by omega)
  · exact .bind fun _ => fits_short 6 rfl (by omega)
  · exact .bind fun _ => fits_short 4 rfl (by omega)
  · exact .bind fun _ => fits_short 2 rfl (by omega)
  · exact .bind fun _ => fits_short 2 rfl (by omega)
  · exact fits_short 0 rfl (by omega)
  · exact fun frame h => by cases h

theorem Dcmt.buildFrame_fits (hc : c.PayloadLayout) {functionId : Nat} :
    Fits (Dcmt.buildFrame c functionId args) := by
  have hpid : ∀ loop, Fits (Dcmt.setPid c loop args) := by
    intro loop
    refine .bind fun gains => fits_short 13 ?_ (by omega)
    rw [hc.setPidPack]
    rfl
  unfold Dcmt.buildFrame
  split
  · exact .bind fun _ => fits_short 4 rfl (by omega)
  · exact .bind fun _ => .bind fun _ => fits_short 2 rfl (by omega)
  · exact .bind fun _ => .bind fun _ => fits_short 1 rfl (by omega)
  · exact .bind fun _ => fits_short 4 rfl (by omega)
  · exact hpid _
  · exact fits_short 0 rfl (by omega)
  · exact hpid _
  · exact fun frame h => by cases h

theorem functionOpcode_ne_setReply (hc : c.SetReplyReserved)
    (type : DeviceType) (functionId : Nat) :
    functionOpcode c type functionId ≠ some kSetReplyOpcode := by
  cases type with
  | rlht =>
      have hr := hc.rlht
      show Rlht.functionOpcode c functionId ≠ _
      unfold Rlht.functionOpcode
      split <;> simp_all
  | dcmt =>
      have hd := hc.dcmt
      show Dcmt.functionOpcode c functionId ≠ _
      unfold Dcmt.functionOpcode
      split <;> simp_all

/-- Every call is built as a command. -/
theorem buildFrame_isCommand (hc : c.PayloadLayout)
    (hreserved : c.SetReplyReserved) {type : DeviceType} {functionId : Nat}
    {frame : RawFrame}
    (h : (adapterFor c type).buildFrame functionId args = .ok frame) :
    IsCommand frame := by
  constructor
  · cases type with
    | rlht => exact Rlht.buildFrame_fits frame h
    | dcmt => exact Dcmt.buildFrame_fits hc frame h
  · intro hquery
    refine functionOpcode_ne_setReply hreserved type functionId ?_
    rw [buildFrame_opcode h, hquery.1]

theorem armFrame_isCommand (hreserved : c.SetReplyReserved)
    (device : InventoryDevice) : IsCommand (Watchdog.armFrame c device) := by
  constructor
  · show 2 ≤ 27
    omega
  · intro hquery
    exact hreserved.rlht c.bread.opSetWatchdog (by simp) hquery.1

theorem safeFrames_isCommand (hreserved : c.SetReplyReserved)
    (type : DeviceType) :
    ∀ frame ∈ SafeOutputs.safeFrames c type, IsCommand frame := by
  have hshort : ∀ {frame : RawFrame}, frame.payload.length ≤ 27 →
      frame.opcode ≠ kSetReplyOpcode → IsCommand frame :=
    fun hlen hne => ⟨hlen, fun hquery => hne hquery.1⟩
  cases type with
  | rlht =>
      simp only [SafeOutputs.safeFrames, List.forall_mem_cons]
      refine ⟨hshort (by simp) ?_, hshort (by simp) ?_, hshort (by simp) ?_,
        List.forall_mem_nil _⟩
      all_goals exact hreserved.rlht _ (by simp)
  | dcmt =>
      simp only [SafeOutputs.safeFrames, List.forall_mem_cons]
      refine ⟨hshort (by simp) ?_, hshort (by simp) ?_, List.forall_mem_nil _⟩
      all_goals exact hreserved.dcmt _ (by simp)

end Frames

end BreadProvider
