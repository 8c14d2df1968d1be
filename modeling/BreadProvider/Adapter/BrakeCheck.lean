import BreadProvider.Adapter.Opcodes
import BreadProvider.Adapter.Operations
import BreadProvider.Adapter.Setpoints

/-!
# Provider — the brake check and the brakes as read

Before a nonzero motor command `dcmt::transmit` reads the state of the board
and judges the brakes for itself. What it refuses is what `read_signals`,
given the same reply, would have reported as braked.
-/

namespace BreadProvider

open Interaction Inventory Trace

variable {c : Contracts}

/-- The queries of a family have reply opcodes of their own. -/
structure Contracts.QueriesDistinct (c : Contracts) : Prop where
  rlht : [c.rlht.opGetState, c.crumbs.cmdGetAck, c.bread.opGetWatchdog].Nodup
  dcmt : [c.dcmt.opGetState, c.crumbs.cmdGetAck, c.bread.opGetWatchdog].Nodup

theorem Reference.queriesDistinct : Contracts.reference.QueriesDistinct where
  rlht := by decide
  dcmt := by decide

/-- A confirmed SET fails on a precondition only once it has been sent. -/
theorem transmitConfirmed_precondition (device : InventoryDevice)
    (frame : RawFrame) (op : String) {σ : Type}
    {E : Environment SessionInterface σ} (s : σ) :
    (transmitConfirmed c device frame op).Ensures E s fun tr res _ =>
      res.errorCode = .failedPrecondition → ∃ e ∈ tr, isSend e = true := by
  by_cases hconf : setConfirmation c device = .unconfirmed
  · rw [transmitConfirmed, if_pos hconf]
    refine Program.ensures_call.mpr fun status s₁ _ tr res s' _ _ => ?_
    exact ⟨_, List.mem_cons_self, rfl⟩
  · rw [transmitConfirmed_eq hconf]
    refine (Program.ensures_trivial _ s).bind fun tr ack s₁ _ => ?_
    cases ack with
    | error why =>
        refine Program.ensures_ret.mpr fun h => ?_
        cases h
    | ok before =>
        show (confirmFrom c _ frame op before (2 + 1)).Ensures E s₁ _
        rw [confirmFrom_succ]
        refine Program.ensures_call.mpr fun status s₂ _ tr' res s' _ _ => ?_
        exact ⟨⟨.send _ frame, status⟩, by simp, rfl⟩

namespace Dcmt

/-- The frame of a motor command. -/
def motorFrame (c : Contracts) (opcode : UInt8) (command1 command2 : Int16) :
    RawFrame where
  typeId := c.dcmt.typeId
  opcode := opcode
  payload := appendI16Le (appendI16Le [] command1) command2

/-- `set_open_loop` and `set_setpoint` build motor frames. -/
theorem int16Pair_motorFrame {args : ValueMap} {key₁ key₂ range : String}
    {lo hi : Int} {opcode : UInt8} {frame : RawFrame}
    (h : int16Pair c args key₁ key₂ lo hi range opcode = .ok frame) :
    ∃ command1 command2, frame = motorFrame c opcode command1 command2 := by
  obtain ⟨pair, -, hret⟩ := Except.bind_eq_ok.mp h
  exact ⟨.ofInt pair.1, .ofInt pair.2, (Except.ok.inj hret).symm⟩

def IsMotorOpcode (c : Contracts) (opcode : UInt8) : Prop :=
  opcode = c.dcmt.opSetOpenLoop ∨ opcode = c.dcmt.opSetSetpoint

section Motor

variable {opcode : UInt8} {command1 command2 : Int16}
variable {device : InventoryDevice}

theorem motorCommands_motorFrame (hopcode : IsMotorOpcode c opcode) :
    motorCommands c (motorFrame c opcode command1 command2)
      = if command1 ≠ 0 ∨ command2 ≠ 0 then some (command1, command2)
        else none := by
  have h₁ := readI16Le_fst command1 command2
  have h₂ := readI16Le_snd command1 command2
  have hdrives : (motorFrame c opcode command1 command2).opcode
        = c.dcmt.opSetOpenLoop
      ∨ (motorFrame c opcode command1 command2).opcode
        = c.dcmt.opSetSetpoint := hopcode
  rw [motorCommands, if_pos hdrives]
  simp only [motorFrame, h₁, h₂]

/-- A motor command is no SET_MODE. -/
theorem needsEncoders_motorFrame (hop : c.OpcodesDistinct)
    (hopcode : IsMotorOpcode c opcode) :
    needsEncoders c device (motorFrame c opcode command1 command2) = false := by
  have hdistinct := hop.dcmt
  have hmode : opcode ≠ c.dcmt.opSetMode := by
    rcases hopcode with rfl | rfl
    · simp_all
    · intro h
      simp_all
  simp [needsEncoders, motorFrame, hmode]

/-- A zero command goes straight to the confirmed SET. -/
theorem transmit_zero (hop : c.OpcodesDistinct)
    (hopcode : IsMotorOpcode c opcode) :
    transmit c device (motorFrame c opcode 0 0)
      = transmitConfirmed c device (motorFrame c opcode 0 0)
          "DCMT SET command" := by
  have hnone : motorCommands c (motorFrame c opcode 0 0) = none := by
    rw [motorCommands_motorFrame hopcode]
    simp
  rw [transmit_eq, brakeCheck_eq, hnone]
  simp [needsEncoders_motorFrame hop hopcode]

end Motor

/-! ## The brakes as read -/

/-- The surroundings of a read that answer its query with `r`. -/
def replying (r : SessionStatus × Option RawFrame) :
    Environment SessionInterface Unit
  | .queryRead _ _, _, ans, _ => ans = r
  | _, _, _, _ => True

/-- `read_signals`, its query answered with `r`, returns ok and `id` true. -/
def ReadsTrue (c : Contracts) (device : InventoryDevice) (ids : List String)
    (r : SessionStatus × Option RawFrame) (id : String) : Prop :=
  ∃ tr br, (readSignals c device ids).Runs (replying r) () tr br () ∧
    br.ok = true ∧ makeSignalValue id (makeBoolVal true) ∈ br.values

/-- The state in a reply that answers GET_STATE. -/
def replyState (c : Contracts) (r : SessionStatus × Option RawFrame) :
    Option DcmtState :=
  let reply := r.2.getD {}
  if r.1.ok ∧ reply.typeId = c.dcmt.typeId
      ∧ reply.opcode = c.dcmt.opGetState then
    parseState c reply.payload
  else none

theorem brakeCheck_replyState {device : InventoryDevice} {frame : RawFrame}
    {commands : Int16 × Int16} (h : motorCommands c frame = some commands) :
    brakeCheck c device frame = .call
        (.queryRead (addressByte device.address) c.dcmt.opGetState) fun r =>
      .ret ((replyState c r).bind fun state =>
        brakedMotor commands.1 commands.2 state.brakes) := by
  rw [brakeCheck_eq, h]
  dsimp only
  refine congrArg (Program.call _) (funext fun r => ?_)
  unfold replyState
  dsimp only
  split
  · rfl
  · rfl

/-- A read is ok exactly with a state in the reply. -/
theorem readSignals_replying (device : InventoryDevice) (ids : List String)
    (r : SessionStatus × Option RawFrame) :
    (readSignals c device ids).Ensures (replying r) () fun _ br _ =>
      (∀ state, replyState c r = some state →
        br = readResult c ids (some state)) ∧
      (replyState c r = none → br.ok = false) := by
  rw [readSignals_eq]
  refine Program.ensures_call.mpr fun ans _ hans => ?_
  obtain rfl : ans = r := hans
  unfold replyState
  dsimp only
  by_cases hok : ans.1.ok = true
  · by_cases hheader : (ans.2.getD {}).typeId = c.dcmt.typeId
        ∧ (ans.2.getD {}).opcode = c.dcmt.opGetState
    · obtain ⟨htype, hopcode⟩ := hheader
      simp only [hok, htype, hopcode, Bool.not_true, Bool.false_eq_true, ne_eq,
        not_true, or_self, if_false, true_and, if_true]
      cases parseState c (ans.2.getD {}).payload with
      | none =>
          rw [Rlht.rejectReply_eq]
          refine Program.ensures_call.mpr fun _ _ _ => ?_
          exact Program.ensures_ret.mpr ⟨nofun, fun _ => rfl⟩
      | some state =>
          refine Program.ensures_ret.mpr ⟨?_, nofun⟩
          rintro _ ⟨⟩
          rfl
    · have hwrong : (ans.2.getD {}).typeId ≠ c.dcmt.typeId
          ∨ (ans.2.getD {}).opcode ≠ c.dcmt.opGetState :=
        not_and_or.mp hheader
      simp only [hok, hheader, hwrong, Bool.not_true, Bool.false_eq_true,
        if_false, and_false, if_true]
      rw [Rlht.rejectReply_eq]
      refine Program.ensures_call.mpr fun _ _ _ => ?_
      exact Program.ensures_ret.mpr ⟨nofun, fun _ => rfl⟩
  · simp only [hok, Bool.not_false, if_true, Bool.false_eq_true, false_and,
      if_false]
    exact Program.ensures_ret.mpr ⟨nofun, fun _ => rfl⟩

/-- The signals of a state, by name: only its own carries a brake. -/
theorem mem_readResult_brake {ids : List String} {state : DcmtState}
    {id : String} {mask : UInt8}
    (hid : (id = "motor1_brake" ∧ mask = 0x01) ∨
      (id = "motor2_brake" ∧ mask = 0x02))
    (hids : shouldInclude isDefaultSignal ids id = true) :
    makeSignalValue id (makeBoolVal true) ∈
        (readResult c ids (some state)).values ↔ state.brakes &&& mask ≠ 0 := by
  have hall : makeSignalValue id (makeBoolVal true) ∈ stateSignals c state
      ↔ state.brakes &&& mask ≠ 0 := by
    have hbool : ∀ b : Bool, makeBoolVal true = makeBoolVal b ↔ b = true := by
      decide
    rcases hid with ⟨rfl, rfl⟩ | ⟨rfl, rfl⟩ <;>
      simp [stateSignals, makeSignalValue, hbool]
  have hvalues : (readResult c ids (some state)).values
      = (stateSignals c state).filter fun v =>
          shouldInclude isDefaultSignal ids v.signalId := rfl
  rw [hvalues, List.mem_filter, hall]
  constructor
  · intro h
    exact h.1
  · intro h
    exact ⟨h, hids⟩

theorem replying_responsive (r : SessionStatus × Option RawFrame) :
    (replying r).Responsive := by
  intro o _
  cases o with
  | queryRead _ _ => exact ⟨r, (), rfl⟩
  | openSession => exact ⟨SessionStatus.success, (), trivial⟩
  | close | recordRejection _ => exact ⟨(), (), trivial⟩
  | isOpen | takeRecovery _ | lastOpFailed _ => exact ⟨false, (), trivial⟩
  | scan _ => exact ⟨(.success, none), (), trivial⟩
  | send _ _ => exact ⟨SessionStatus.success, (), trivial⟩
  | read _ => exact ⟨(.success, none), (), trivial⟩
  | statsFor _ => exact ⟨({} : AddressStats), (), trivial⟩

theorem readsTrue_iff {device : InventoryDevice} {ids : List String}
    {r : SessionStatus × Option RawFrame} {id : String} {mask : UInt8}
    (hid : (id = "motor1_brake" ∧ mask = 0x01) ∨
      (id = "motor2_brake" ∧ mask = 0x02))
    (hids : shouldInclude isDefaultSignal ids id = true) :
    ReadsTrue c device ids r id ↔ ∃ state, replyState c r = some state ∧
      state.brakes &&& mask ≠ 0 := by
  constructor
  · intro h
    obtain ⟨tr, br, hrun, hok, hmem⟩ := h
    obtain ⟨hsome, hnone⟩ := readSignals_replying device ids r tr br () hrun
    cases hstate : replyState c r with
    | none =>
        rw [hnone hstate] at hok
        cases hok
    | some state =>
        rw [hsome state hstate] at hmem
        exact ⟨state, rfl, (mem_readResult_brake hid hids).mp hmem⟩
  · intro h
    obtain ⟨state, hstate, hbrake⟩ := h
    obtain ⟨tr, br, _, hrun⟩ :=
      (replying_responsive r).run (readSignals c device ids) ()
    obtain rfl :=
      (readSignals_replying device ids r tr br () hrun).1 state hstate
    exact ⟨tr, _, hrun, rfl, (mem_readResult_brake hid hids).mpr hbrake⟩

/-- A motor with a nonzero command, its brake read as engaged. -/
def ReadsBraked (c : Contracts) (device : InventoryDevice) (ids : List String)
    (command1 command2 : Int16) (r : SessionStatus × Option RawFrame) : Prop :=
  command1 ≠ 0 ∧ ReadsTrue c device ids r "motor1_brake" ∨
    command2 ≠ 0 ∧ ReadsTrue c device ids r "motor2_brake"

/-! ## The refusal -/

/-- Refused on a precondition, with no SET frame sent. -/
def Refused (tr : List (Event SessionInterface)) (res : AdapterCallResult) :
    Prop :=
  res.errorCode = .failedPrecondition ∧ ∀ e ∈ tr, isSend e = false

theorem brakedMotor_code {command1 command2 : Int16} {brakes : UInt8}
    {res : AdapterCallResult}
    (h : brakedMotor command1 command2 brakes = some res) :
    res.errorCode = .failedPrecondition := by
  unfold brakedMotor at h
  split_ifs at h
  · cases h
    rfl
  · cases h
    rfl

theorem brakedMotor_eq_none {command1 command2 : Int16} {brakes : UInt8} :
    brakedMotor command1 command2 brakes = none ↔
      ¬ (command1 ≠ 0 ∧ brakes &&& 0x01 ≠ 0 ∨
        command2 ≠ 0 ∧ brakes &&& 0x02 ≠ 0) := by
  unfold brakedMotor
  split_ifs with h₁ h₂
  · simp [h₁]
  · simp [h₂]
  · simp only [true_iff]
    intro h
    exact h.elim h₁ h₂

theorem not_refused_confirmed {device : InventoryDevice} {frame : RawFrame}
    {op : String} {σ : Type} {E : Environment SessionInterface σ} {s s' : σ}
    {tr : List (Event SessionInterface)} {res : AdapterCallResult}
    (h : (transmitConfirmed c device frame op).Runs E s tr res s') :
    ¬ Refused tr res := by
  intro hrefused
  obtain ⟨hcode, hquiet⟩ := hrefused
  obtain ⟨e, he, hsend⟩ := transmitConfirmed_precondition device frame op s _ _ _ h hcode
  rw [hquiet e he] at hsend
  cases hsend

/-- A nonzero command: the state query, then the refusal or the SET. -/
theorem transmit_nonzero (hop : c.OpcodesDistinct) {device : InventoryDevice}
    {opcode : UInt8} (hopcode : IsMotorOpcode c opcode)
    {command1 command2 : Int16} (hzero : ¬ (command1 = 0 ∧ command2 = 0)) :
    transmit c device (motorFrame c opcode command1 command2) = .call
        (.queryRead (addressByte device.address) c.dcmt.opGetState) fun r =>
      match (replyState c r).bind fun state =>
          brakedMotor command1 command2 state.brakes with
      | some refusal => .ret refusal
      | none => transmitConfirmed c device
          (motorFrame c opcode command1 command2) "DCMT SET command" := by
  have hcommands : motorCommands c (motorFrame c opcode command1 command2)
      = some (command1, command2) := by
    rw [motorCommands_motorFrame hopcode, if_pos (not_and_or.mp hzero)]
  rw [transmit_eq, brakeCheck_replyState hcommands, Program.call_bind]
  refine congrArg (Program.call _) (funext fun r => ?_)
  rw [Program.ret_bind, needsEncoders_motorFrame hop hopcode]
  rfl

/-- What is refused is what a read of the same reply reports. -/
theorem replyState_braked_iff {device : InventoryDevice} {ids : List String}
    (hids₁ : shouldInclude isDefaultSignal ids "motor1_brake" = true)
    (hids₂ : shouldInclude isDefaultSignal ids "motor2_brake" = true)
    {command1 command2 : Int16} {r : SessionStatus × Option RawFrame} :
    (replyState c r).bind (fun state =>
        brakedMotor command1 command2 state.brakes) = none ↔
      ¬ ReadsBraked c device ids command1 command2 r := by
  rw [ReadsBraked, readsTrue_iff (.inl ⟨rfl, rfl⟩) hids₁,
    readsTrue_iff (.inr ⟨rfl, rfl⟩) hids₂]
  cases replyState c r with
  | none => simp
  | some state =>
      rw [Option.bind_some, brakedMotor_eq_none]
      simp

/-- A motor command is refused, and not sent, exactly if it drives a motor
that a read given the same reply reports as braked. A zero command asks for no
state. What is not refused is the confirmed SET. -/
theorem transmit_brake_law (c : Contracts) (hop : c.OpcodesDistinct)
    (hquery : c.QueriesDistinct) (device : InventoryDevice) {opcode : UInt8}
    (hopcode : IsMotorOpcode c opcode) (command1 command2 : Int16)
    (ids : List String)
    (hids₁ : shouldInclude isDefaultSignal ids "motor1_brake" = true)
    (hids₂ : shouldInclude isDefaultSignal ids "motor2_brake" = true)
    {σ : Type} {E : Environment SessionInterface σ} {s s' : σ}
    {tr : List (Event SessionInterface)} {res : AdapterCallResult}
    (hrun : (transmit c device (motorFrame c opcode command1 command2)).Runs E
      s tr res s') :
    (Refused tr res ↔ ¬ (command1 = 0 ∧ command2 = 0) ∧ ∃ r rest,
      tr = ⟨.queryRead (addressByte device.address) c.dcmt.opGetState, r⟩
        :: rest ∧ ReadsBraked c device ids command1 command2 r) ∧
    (command1 = 0 ∧ command2 = 0 → ∀ e ∈ tr,
      e.op ≠ .queryRead (addressByte device.address) c.dcmt.opGetState) ∧
    (¬ Refused tr res → ∃ s₁ sent,
      (transmitConfirmed c device (motorFrame c opcode command1 command2)
        "DCMT SET command").Runs E s₁ sent res s' ∧
      (tr = sent ∧ s₁ = s ∨ ∃ r, tr = ⟨.queryRead (addressByte device.address)
        c.dcmt.opGetState, r⟩ :: sent)) := by
  by_cases hzero : command1 = 0 ∧ command2 = 0
  · obtain ⟨rfl, rfl⟩ := hzero
    rw [transmit_zero hop hopcode] at hrun
    have hnot := not_refused_confirmed hrun
    refine ⟨iff_of_false hnot fun h => h.1 ⟨rfl, rfl⟩, fun _ e he hstate => ?_,
      fun _ => ⟨s, tr, hrun, .inl ⟨rfl, rfl⟩⟩⟩
    have hconfirm := (transmitConfirmed_every c device _ _).runs hrun e he
    generalize e.op = o at hstate hconfirm
    cases hconfirm with
    | read =>
        have hack := (SessionOp.queryRead.inj hstate).2
        have hdistinct := hquery.dcmt
        simp [hack] at hdistinct
    | reject | send => cases hstate
  · rw [transmit_nonzero hop hopcode hzero] at hrun
    obtain ⟨r, s₁, rest, -, rfl, hrest⟩ := hrun
    beta_reduce at hrest
    have hread := @replyState_braked_iff c device ids hids₁ hids₂ command1
      command2 r
    cases hfound : (replyState c r).bind fun state =>
        brakedMotor command1 command2 state.brakes with
    | some refusal =>
        have hbraked : ReadsBraked c device ids command1 command2 r := by
          by_contra h
          rw [hread.mpr h] at hfound
          cases hfound
        rw [hfound] at hrest
        obtain ⟨rfl, rfl, rfl⟩ := hrest
        obtain ⟨state, -, hstate⟩ := Option.bind_eq_some_iff.mp hfound
        have hrefused : Refused [⟨.queryRead (addressByte device.address)
            c.dcmt.opGetState, r⟩] res :=
          ⟨brakedMotor_code hstate, List.forall_mem_singleton.mpr rfl⟩
        exact ⟨iff_of_true hrefused ⟨hzero, r, [], rfl, hbraked⟩,
          fun h => absurd h hzero, fun h => absurd hrefused h⟩
    | none =>
        have hfree := hread.mp hfound
        rw [hfound] at hrest
        have hnot : ¬ Refused (⟨.queryRead (addressByte device.address)
            c.dcmt.opGetState, r⟩ :: rest) res := by
          intro h
          refine not_refused_confirmed hrest ⟨h.1, fun e he => ?_⟩
          exact h.2 e (List.mem_cons_of_mem _ he)
        refine ⟨iff_of_false hnot ?_, fun h => absurd h hzero,
          fun _ => ⟨s₁, rest, hrest, .inr ⟨r, rfl⟩⟩⟩
        intro h
        obtain ⟨-, r', rest', heq, hbraked⟩ := h
        obtain ⟨hevent, -⟩ := List.cons.inj heq
        obtain rfl := eq_of_heq (Event.mk.inj hevent).2
        exact hfree hbraked

end Dcmt

namespace Reference

/-- A state reply: open loop, the second motor braked. -/
def brakedReply : SessionStatus × Option RawFrame :=
  (.success, some
    { typeId := 0x02
      opcode := 0x80
      payload := List.replicate 17 0 ++ [0x02, 0, 0] })

end Reference

open Reference in
/-- A command to the second motor is refused, and a read says so too. -/
theorem Dcmt.transmit_brake_law_pump :
    Dcmt.Refused [⟨.queryRead 0x15 0x80, brakedReply⟩]
        (Dcmt.brakeRefusal "motor2") ∧
      Dcmt.ReadsBraked .reference dcmtDevice [] 0 120 brakedReply := by
  have hrun : (Dcmt.transmit .reference dcmtDevice
      (Dcmt.motorFrame .reference 0x01 0 120)).Runs (Dcmt.replying brakedReply)
        () [⟨.queryRead 0x15 0x80, brakedReply⟩] (Dcmt.brakeRefusal "motor2")
        () :=
    ⟨brakedReply, (), [], rfl, rfl, rfl, rfl, rfl⟩
  have hrefused : Dcmt.Refused [⟨.queryRead 0x15 0x80, brakedReply⟩]
      (Dcmt.brakeRefusal "motor2") :=
    ⟨rfl, List.forall_mem_singleton.mpr rfl⟩
  obtain ⟨-, r, rest, heq, hbraked⟩ := (Dcmt.transmit_brake_law .reference
    opcodesDistinct queriesDistinct dcmtDevice (.inl rfl) 0 120 [] rfl rfl
    hrun).1.mp hrefused
  obtain ⟨hevent, -⟩ := List.cons.inj heq
  obtain rfl := eq_of_heq (Event.mk.inj hevent).2
  exact ⟨hrefused, hbraked⟩

end BreadProvider
