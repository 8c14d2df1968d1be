import BreadProvider.Adapter.Operations
import BreadProvider.Adapter.Published
import BreadProvider.Contracts.Reference
import BreadProvider.Provider.Commands
import BreadProvider.Runtime

/-!
# Provider — the published contract

Whatever a call is given, the transports are handed a command frame only
where the device publishes the function and the arguments lie within the
spec it is held to.
-/

namespace BreadProvider

open Interaction Inventory

variable {c : Contracts}

/-! ## The gate -/

/-- What the gate stops is not sent, and reported as a failure. -/
theorem transmit_gated {device : InventoryDevice} {frame : RawFrame}
    (h : gated c device frame = true) :
    ((adapterFor c device.type).transmit device frame).Every SessionOp.Quiet ∧
      ((adapterFor c device.type).transmit device frame).Ensures
        (Environment.any SessionInterface) () fun _ br _ => br.ok = false := by
  cases htype : device.type with
  | rlht => simp [gated, htype] at h
  | dcmt =>
      simp only [gated, htype] at h
      change (Dcmt.transmit c device frame).Every _ ∧
        (Dcmt.transmit c device frame).Ensures _ _ _
      rw [Dcmt.transmit_eq]
      constructor
      · refine ((Dcmt.brakeCheck_every frame).mono
          fun _ h => h.quiet fun _ hf => hf).bind fun found => ?_
        cases found with
        | some refusal => trivial
        | none =>
            dsimp only
            rw [if_pos h]
            trivial
      · refine (Dcmt.brakeCheck_refuses device frame ()).bind ?_
        rintro _ (_ | refusal) _ hrefused
        · dsimp only
          rw [if_pos h]
          exact Program.ensures_ret.mpr rfl
        · exact Program.ensures_ret.mpr (hrefused refusal rfl)

/-! ## A call -/

namespace BreadProviderRuntime

/-- The frame of a call is built and passes the gate. -/
def Passes (c : Contracts) (device : InventoryDevice) (functionId : Nat)
    (args : ValueMap) : Prop :=
  ∃ frame, (adapterFor c device.type).buildFrame functionId args = .ok frame ∧
    gated c device frame = false

/-- A call that does not pass sends nothing and fails. -/
theorem callDevice_blocked {device : InventoryDevice} {functionId : Nat}
    {args : ValueMap} (h : ¬ Passes c device functionId args)
    (session : Option Nat) :
    (callDevice c session device functionId args).Every ProviderOp.Quiet ∧
      ∀ {σ : Type} (E : Environment ProviderInterface σ) (s : σ),
        (callDevice c session device functionId args).Ensures E s
          fun _ br _ => br.ok = false := by
  unfold callDevice
  cases hbuild : (adapterFor c device.type).buildFrame functionId args with
  | error refused =>
      exact ⟨trivial, fun E s => Program.ensures_ret.mpr
        (buildFrame_refuses _ _ _ refused hbuild)⟩
  | ok frame =>
      have hgate : gated c device frame = true := by
        by_contra hgate
        exact h ⟨frame, hbuild, by simpa using hgate⟩
      obtain ⟨hquiet, hfails⟩ := transmit_gated hgate
      cases session with
      | none => exact ⟨trivial, fun E s => Program.ensures_ret.mpr rfl⟩
      | some session =>
          exact ⟨onSession_sends hquiet session,
            fun E s => hfails.ofTranslate s⟩

theorem call_eq (deviceId : String) (functionId : Nat) (args : ValueMap) :
    call c deviceId functionId args = .call .snapshot fun state =>
      match findDevice state.devices deviceId with
      | none => .ret (callError .notFound "unknown device_id")
      | some device => .call (.noteContact deviceId) fun _ =>
          if !functionExists device functionId "" then
            .ret (callError .notFound "unknown function_id")
          else .call .session fun session =>
            callDevice c session device functionId args >>= fun br =>
              if br.ok then .call .session fun session =>
                handleRecovery c session device state.config >>= fun _ =>
                  .ret br
              else .ret br := by
  refine congrArg (@Program.call ProviderInterface _ .snapshot)
    (funext fun state => ?_)
  dsimp only [Program.bind]
  cases findDevice state.devices deviceId <;> rfl

theorem functionExists_id {device : InventoryDevice} {functionId : Nat}
    (h : functionExists device functionId "" = true) :
    ∃ f ∈ device.capabilities.functions, f.functionId = functionId := by
  obtain ⟨f, hf, hid⟩ := List.any_eq_true.mp h
  refine ⟨f, hf, ?_⟩
  simp only [bne_self_eq_false, Bool.false_and, Bool.or_false,
    Bool.and_eq_true, beq_iff_eq] at hid
  exact hid.2

/-- A call that asks a session for a command frame names a device of the
snapshot and one of its functions, and passes. -/
theorem call_sends {σ : Type} {E : Environment ProviderInterface σ}
    {deviceId : String} {functionId : Nat} {args : ValueMap} {s s' : σ}
    {tr : List (Event ProviderInterface)} {r : AdapterCallResult}
    (hrun : (call c deviceId functionId args).Runs E s tr r s')
    (hsent : ∃ e ∈ tr, ∃ cmd, e.op.command = some cmd) :
    ∃ state s₁ device, E .snapshot s state s₁ ∧
      findDevice state.devices deviceId = some device ∧
      functionExists device functionId "" = true ∧
      Passes c device functionId args := by
  rw [call_eq] at hrun
  obtain ⟨state, s₁, tr₁, hsnap, rfl, hrun⟩ := hrun
  obtain ⟨e, he, cmd, hcmd⟩ := hsent
  have he : e ∈ tr₁ := (List.mem_cons.mp he).resolve_left
    (by rintro rfl; cases hcmd)
  beta_reduce at hrun
  cases hfind : findDevice state.devices deviceId with
  | none =>
      rw [hfind] at hrun
      obtain ⟨rfl, -, -⟩ := hrun
      cases he
  | some device =>
      rw [hfind] at hrun
      obtain ⟨_, s₂, tr₂, -, rfl, hrun⟩ := hrun
      have he : e ∈ tr₂ := (List.mem_cons.mp he).resolve_left
        (by rintro rfl; cases hcmd)
      cases hexists : functionExists device functionId "" with
      | false =>
          rw [hexists] at hrun
          obtain ⟨rfl, -, -⟩ := hrun
          cases he
      | true =>
          refine ⟨state, s₁, device, hsnap, hfind, hexists, ?_⟩
          rw [hexists] at hrun
          obtain ⟨session, s₃, tr₃, -, rfl, hrun⟩ := hrun
          have he : e ∈ tr₃ := (List.mem_cons.mp he).resolve_left
            (by rintro rfl; cases hcmd)
          by_contra hblocked
          obtain ⟨hquiet, hfails⟩ := callDevice_blocked hblocked session
          obtain ⟨tr₄, br, s₄, tr₅, hcall, hrest, rfl⟩ :=
            Program.runs_bind.mp hrun
          rw [if_neg (by simp [hfails E s₃ _ _ _ hcall])] at hrest
          obtain ⟨rfl, -, -⟩ := hrest
          rw [List.append_nil] at he
          exact hquiet.runs hcall e he cmd hcmd

end BreadProviderRuntime

/-! ## The contract -/

/-- A call that hands a transport a command frame is a call of a published
function within the spec the device holds it to. -/
theorem call_within_spec {σ : Type} {E : Environment SystemInterface σ}
    {p p' : Process} {w w' : σ} {tr : List (Event SystemInterface)}
    {deviceId : String} {functionId : Nat} {args : ValueMap}
    {r : AdapterCallResult}
    (hpub : ∀ d ∈ p.state.devices, Published c d)
    (hrun : ((BreadProviderRuntime.call c deviceId functionId args).interp
      Process.handle p).Runs E w tr (r, p') w')
    (hsent : commands tr ≠ []) :
    ∃ device, findDevice p.state.devices deviceId = some device ∧
      ∃ f ∈ device.capabilities.functions, f.functionId = functionId ∧
        (checkedSpec device f).Admits args := by
  obtain ⟨t, ht, hasked⟩ := Process.interp_commands hrun
  obtain ⟨cmd, hcmd⟩ := List.exists_mem_of_ne_nil _ hsent
  obtain ⟨e, he, hcommand⟩ := hasked cmd hcmd
  obtain ⟨state, ⟨p₁, w₁⟩, device, hsnap, hfind, hexists, frame, hbuild, hgate⟩ :=
    BreadProviderRuntime.call_sends ht
      ⟨e, he, cmd, hcommand⟩
  obtain ⟨_, -, heq, -⟩ := hsnap
  rw [(Prod.mk.inj heq).1] at hfind
  obtain ⟨f, hf, rfl⟩ := BreadProviderRuntime.functionExists_id hexists
  have hmem : device ∈ p.state.devices := List.mem_of_find?_eq_some hfind
  exact ⟨device, hfind, f, hf, rfl,
    admits_of_buildFrame (hpub device hmem) hf hbuild hgate⟩

/-! ## A device with one closed loop -/

namespace Reference

/-- A pump whose firmware offers position control and no other loop. -/
def positionPump : InventoryDevice :=
  buildDevice .reference config
    { address := 0x15, typeId := 0x02, status := .supported
      version := { crumbsVersion := 1500, moduleMajor := 1 }
      capabilityProfile :=
        { flags := dcmt.capClosedLoopPosition, source := .queried } }
    .dcmt .manual true "pump" "Pump"

def pumpProcess : Process :=
  { state := { config, devices := [positionPump], ready := true }
    session := some 0, transport := some 0, made := 1 }

def modeArgs (mode : String) : ValueMap := [("mode", makeStringVal mode)]

/-- A SET_MODE to the pump, sent once and delivered. -/
def modeSent (byte : UInt8) : List (Event SystemInterface) :=
  [⟨.bus 0 .isOpen, true⟩,
    ⟨.bus 0 (.send 0x15 { typeId := 0x02, opcode := 0x03, payload := [byte] }),
      .success⟩]

theorem pumpProcess_published :
    ∀ d ∈ pumpProcess.state.devices, Published .reference d :=
  List.forall_mem_singleton.mpr (buildDevice_published ..)

end Reference

open Reference in
/-- A mode the pump advertises is sent, and is one it publishes. -/
theorem call_within_spec_position :
    ∃ device, findDevice pumpProcess.state.devices "pump" = some device ∧
      ∃ f ∈ device.capabilities.functions, f.functionId = 3 ∧
        (checkedSpec device f).Admits (modeArgs "closed_position") := by
  have hrun : ∃ p', ((BreadProviderRuntime.call .reference "pump" 3
      (modeArgs "closed_position")).interp Process.handle pumpProcess).Runs
        (Environment.any SystemInterface) () (modeSent 1)
        (callOk "ok (unconfirmed)", p') () :=
    ⟨_, true, (), _, trivial, rfl, .success, (), _, trivial, rfl, rfl, rfl, rfl⟩
  obtain ⟨p', hrun⟩ := hrun
  exact call_within_spec pumpProcess_published hrun (by decide)

open Reference in
/-- So is a mode it does not advertise: `build_frame` knows no flags. -/
theorem unadvertised_mode_sent :
    (∃ p', ((BreadProviderRuntime.call .reference "pump" 3
      (modeArgs "closed_speed")).interp Process.handle pumpProcess).Runs
        (Environment.any SystemInterface) () (modeSent 2)
        (callOk "ok (unconfirmed)", p') ()) ∧
      commands (modeSent 2) ≠ [] ∧
      findDevice pumpProcess.state.devices "pump" = some positionPump ∧
      Published .reference positionPump ∧
      ¬ ∃ f ∈ positionPump.capabilities.functions, f.functionId = 3 ∧
        f.Admits (modeArgs "closed_speed") := by
  refine ⟨⟨_, true, (), _, trivial, rfl, .success, (), _, trivial, rfl, rfl,
    rfl, rfl⟩, by decide, rfl, buildDevice_published .., ?_⟩
  rintro ⟨f, hf, hid, hadmits⟩
  have hpub : Published .reference positionPump := buildDevice_published ..
  rw [hpub] at hf
  rw [FunctionSpec.Admits, Dcmt.setMode_args hf hid, List.forall_mem_singleton]
    at hadmits
  have hmodes : dcmtModes .reference (publishedFlags .reference positionPump)
      = ["open_loop", "closed_position"] := by decide
  rw [hmodes, admits_stringArg] at hadmits
  obtain ⟨mode, hmode, hmem⟩ := hadmits
  have : mode = "closed_speed" := by
    have hget : getArgString (modeArgs "closed_speed") "mode"
        = some "closed_speed" := rfl
    exact Option.some.inj (hmode.symm.trans hget)
  subst this
  revert hmem
  decide

end BreadProvider
