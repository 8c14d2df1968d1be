import BreadProvider.Adapter.Confirmation
import BreadProvider.Keepalive
import BreadProvider.Provider.Commands

/-!
# Provider — what a device program asks of its session

Reading, calling, driving safe, arming and feeding a device ask its session
for operations at one address only, and for the frames of one purpose only.
-/

namespace BreadProvider

open Interaction Inventory

variable {c : Contracts}

/-- The operations of a device at `address`, which sends only frames of
`φ`. None takes the recovery signal. -/
inductive SessionOp.At (address : UInt8) (φ : RawFrame → Prop) :
    SessionOp → Prop where
  | query (replyOpcode : UInt8) : At address φ (.queryRead address replyOpcode)
  | send (frame : RawFrame) (h : φ frame) : At address φ (.send address frame)
  | reject : At address φ (.recordRejection address)
  | stats : At address φ (.statsFor address)
  | failed : At address φ (.lastOpFailed address)

namespace SessionOp.At

variable {address : UInt8} {φ ψ : RawFrame → Prop} {o : SessionOp}

theorem mono (h : At address φ o) (himp : ∀ f, φ f → ψ f) :
    At address ψ o := by
  cases h with
  | query replyOpcode => exact .query replyOpcode
  | send frame hframe => exact .send frame (himp frame hframe)
  | reject => exact .reject
  | stats => exact .stats
  | failed => exact .failed

theorem sends (h : At address φ o) :
    o.Sends fun a f => a = address ∧ φ f := by
  rintro a f rfl
  cases h with
  | send _ hframe => exact ⟨rfl, hframe⟩

theorem quiet (h : At address φ o) (hφ : ∀ f, ¬ φ f) : o.Quiet :=
  h.sends.mono fun _ f hf => hφ f hf.2

theorem ne_takeRecovery (h : At address φ o) (a : UInt8) :
    o ≠ .takeRecovery a := by
  rintro rfl
  cases h

end SessionOp.At

theorem transmitConfirmed_at (device : InventoryDevice) (frame : RawFrame)
    (op : String) :
    (transmitConfirmed c device frame op).Every
      (SessionOp.At (addressByte device.address) (· = frame)) := by
  refine (transmitConfirmed_every c device frame op).mono ?_
  rintro _ (_ | _ | _)
  · exact .query _
  · exact .reject
  · exact .send frame rfl

/-! ## The brake check -/

namespace Dcmt

theorem brakeCheck_eq (device : InventoryDevice) (frame : RawFrame) :
    brakeCheck c device frame = match motorCommands c frame with
      | none => .ret none
      | some commands =>
          .call (.queryRead (addressByte device.address) c.dcmt.opGetState)
            fun r =>
              let reply := r.2.getD {}
              if r.1.ok ∧ reply.typeId = c.dcmt.typeId
                  ∧ reply.opcode = c.dcmt.opGetState then
                .ret ((parseState c reply.payload).bind fun state =>
                  brakedMotor commands.1 commands.2 state.brakes)
              else .ret none := by
  unfold brakeCheck
  cases motorCommands c frame <;> rfl

theorem brakeCheck_every {φ : RawFrame → Prop} {device : InventoryDevice}
    (frame : RawFrame) :
    (brakeCheck c device frame).Every
      (SessionOp.At (addressByte device.address) φ) := by
  rw [brakeCheck_eq]
  split
  · trivial
  · refine ⟨.query _, fun r => ?_⟩
    dsimp only
    split <;> trivial

theorem brakedMotor_refuses {command1 command2 : Int16} {brakes : UInt8}
    {r : AdapterCallResult} (h : brakedMotor command1 command2 brakes = some r) :
    r.ok = false := by
  unfold brakedMotor at h
  split_ifs at h
  · cases h
    rfl
  · cases h
    rfl

/-- A refusal of the brake check is a failed call. -/
theorem brakeCheck_refuses {σ : Type} {E : Environment SessionInterface σ}
    (device : InventoryDevice) (frame : RawFrame) (s : σ) :
    (brakeCheck c device frame).Ensures E s fun _ found _ =>
      ∀ r, found = some r → r.ok = false := by
  rw [brakeCheck_eq]
  split
  · exact Program.ensures_ret.mpr nofun
  · refine Program.ensures_call.mpr fun r s₁ _ => ?_
    dsimp only
    split
    · refine Program.ensures_ret.mpr fun refusal hr => ?_
      obtain ⟨state, -, hbraked⟩ := Option.bind_eq_some_iff.mp hr
      exact brakedMotor_refuses hbraked
    · exact Program.ensures_ret.mpr nofun

theorem transmit_eq (device : InventoryDevice) (frame : RawFrame) :
    transmit c device frame = brakeCheck c device frame >>= fun found =>
      match found with
      | some refusal => .ret refusal
      | none =>
          if needsEncoders c device frame then
            .ret (callError .invalidArgument
              ("closed-loop modes need encoders; "
                ++ "this device is configured with encoders: false"))
          else transmitConfirmed c device frame "DCMT SET command" := rfl

end Dcmt

/-! ## Reading -/

theorem rejectReply_every {φ : RawFrame → Prop} (address : UInt8)
    (message : String) :
    (Rlht.rejectReply address message).Every (SessionOp.At address φ) :=
  ⟨.reject, fun _ => trivial⟩

theorem Rlht.readSignals_every {φ : RawFrame → Prop}
    (device : InventoryDevice) (signalIds : List String) :
    (Rlht.readSignals c device signalIds).Every
      (SessionOp.At (addressByte device.address) φ) := by
  rw [Rlht.readSignals_eq]
  refine ⟨.query _, fun r => ?_⟩
  dsimp only
  split
  · trivial
  · split
    · exact rejectReply_every _ _
    · split
      · exact rejectReply_every _ _
      · split
        · exact rejectReply_every _ _
        · trivial

theorem Dcmt.readSignals_every {φ : RawFrame → Prop}
    (device : InventoryDevice) (signalIds : List String) :
    (Dcmt.readSignals c device signalIds).Every
      (SessionOp.At (addressByte device.address) φ) := by
  rw [Dcmt.readSignals_eq]
  refine ⟨.query _, fun r => ?_⟩
  dsimp only
  split
  · trivial
  · split
    · exact rejectReply_every _ _
    · split
      · exact rejectReply_every _ _
      · trivial

theorem readSignals_every {φ : RawFrame → Prop} (device : InventoryDevice)
    (signalIds : List String) :
    ((adapterFor c device.type).readSignals device signalIds).Every
      (SessionOp.At (addressByte device.address) φ) := by
  cases device.type with
  | rlht => exact Rlht.readSignals_every device signalIds
  | dcmt => exact Dcmt.readSignals_every device signalIds

/-! ## Calling -/

theorem transmit_every (device : InventoryDevice) (frame : RawFrame) :
    ((adapterFor c device.type).transmit device frame).Every
      (SessionOp.At (addressByte device.address) (· = frame)) := by
  cases device.type with
  | rlht => exact transmitConfirmed_at device frame _
  | dcmt =>
      change (Dcmt.transmit c device frame).Every _
      rw [Dcmt.transmit_eq]
      refine (Dcmt.brakeCheck_every frame).bind fun found => ?_
      cases found with
      | some refusal => trivial
      | none =>
          dsimp only
          split_ifs
          · trivial
          · exact transmitConfirmed_at device frame _

theorem adapterCall_every (device : InventoryDevice) (functionId : Nat)
    (args : ValueMap) :
    (adapterCall c device functionId args).Every
      (SessionOp.At (addressByte device.address) fun frame =>
        (adapterFor c device.type).buildFrame functionId args = .ok frame) := by
  unfold adapterCall
  split
  · trivial
  · rename_i frame hbuild
    refine (transmit_every device frame).mono fun o ho => ho.mono ?_
    rintro _ rfl
    exact hbuild

/-! ## Safe outputs -/

namespace SafeOutputs

/-- The frame of a step of the device's safe sequence. -/
def IsStep (c : Contracts) (device : InventoryDevice) (frame : RawFrame) :
    Prop :=
  ∃ step ∈ (adapterFor c device.type).safeOutputSteps,
    (adapterFor c device.type).buildFrame step.functionId step.args = .ok frame

theorem driveSteps_every (device : InventoryDevice)
    (steps : List SafeOutputStep)
    (hsteps : ∀ step ∈ steps,
      step ∈ (adapterFor c device.type).safeOutputSteps) (r : Result) :
    (driveSteps c device steps r).Every
      (SessionOp.At (addressByte device.address) (IsStep c device)) := by
  induction steps generalizing r with
  | nil => trivial
  | cons step rest ih =>
      rw [driveSteps]
      refine Program.Every.bind ?_ fun sent =>
        ih (fun s hs => hsteps s (List.mem_cons_of_mem _ hs)) _
      refine (adapterCall_every device _ _).mono fun o ho => ho.mono ?_
      exact fun frame hbuild => ⟨step, hsteps step List.mem_cons_self, hbuild⟩

theorem drive_every (device : InventoryDevice) :
    (drive c device).Every
      (SessionOp.At (addressByte device.address) (IsStep c device)) :=
  driveSteps_every device _ (fun _ h => h) {}

end SafeOutputs

/-! ## Watchdogs -/

namespace Watchdog

/-- The frame that arms a device, if it is armed at all. -/
def IsArming (c : Contracts) (device : InventoryDevice) (frame : RawFrame) :
    Prop :=
  Arms c device ∧ frame = armFrame c device

theorem armIfConfigured_every (device : InventoryDevice) :
    (armIfConfigured c device).Every
      (SessionOp.At (addressByte device.address) (IsArming c device)) := by
  unfold armIfConfigured
  split
  · rename_i harms
    exact ⟨.send _ ⟨harms, rfl⟩, fun _ => trivial⟩
  · trivial

theorem rearmIfRebooted_every (device : InventoryDevice)
    (status : WatchdogStatus) :
    (rearmIfRebooted c device status).Every
      (SessionOp.At (addressByte device.address) (IsArming c device)) := by
  unfold rearmIfRebooted
  split
  · trivial
  · exact (armIfConfigured_every device).bind fun _ => trivial

theorem queryStatus_at {φ : RawFrame → Prop} (device : InventoryDevice) :
    (queryStatus c device).Every
      (SessionOp.At (addressByte device.address) φ) :=
  queryStatus_every (.query _) .reject

end Watchdog

end BreadProvider
