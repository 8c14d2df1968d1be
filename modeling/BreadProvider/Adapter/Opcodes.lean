import BreadProvider.Adapter.DeviceAdapter
import BreadProvider.Contracts.Reference
import BreadProvider.Inventory.Published

/-!
# Provider — which call a frame is of

Each function is built under its own opcode, so where the contracts keep the
opcodes of a family apart a frame tells what it was built for.
-/

namespace BreadProvider

open Inventory

/-- The commands of a family have opcodes of their own. -/
structure Contracts.OpcodesDistinct (c : Contracts) : Prop where
  rlht : [c.rlht.opSetMode, c.rlht.opSetSetpoints, c.rlht.opSetPid,
    c.rlht.opSetPeriods, c.rlht.opSetTcSelect, c.rlht.opSetOpenDuty,
    c.bread.opClearWatchdogTrip, c.bread.opSetWatchdog].Nodup
  dcmt : [c.dcmt.opSetOpenLoop, c.dcmt.opSetBrake, c.dcmt.opSetMode,
    c.dcmt.opSetSetpoint, c.dcmt.opSetPid,
    c.bread.opClearWatchdogTrip, c.bread.opSetWatchdog].Nodup

theorem Reference.opcodesDistinct : Contracts.reference.OpcodesDistinct where
  rlht := by decide
  dcmt := by decide

variable {c : Contracts} {args : ValueMap}

/-- Whatever is built has this opcode. -/
def Builds (opcode : UInt8) (x : Except AdapterCallResult RawFrame) : Prop :=
  ∀ frame, x = .ok frame → frame.opcode = opcode

theorem Builds.bind {α : Type} {opcode : UInt8}
    {x : Except AdapterCallResult α}
    {f : α → Except AdapterCallResult RawFrame}
    (h : ∀ a, Builds opcode (f a)) : Builds opcode (x >>= f) := by
  intro frame hframe
  obtain ⟨a, -, ha⟩ := Except.bind_eq_ok.mp hframe
  exact h a frame ha

theorem Builds.ret {opcode : UInt8} {frame : RawFrame}
    (h : frame.opcode = opcode) : Builds opcode (.ok frame) := by
  rintro _ ⟨⟩
  exact h

theorem Builds.opcode {opcode : UInt8} {x : Except AdapterCallResult RawFrame}
    {frame : RawFrame} (h : x = .ok frame) (hx : Builds opcode x) :
    some opcode = some frame.opcode :=
  congrArg some (hx frame h).symm

namespace Rlht

/-- The opcode of a function, if it is one. -/
def functionOpcode (c : Contracts) : Nat → Option UInt8
  | 1 => some c.rlht.opSetMode
  | 2 => some c.rlht.opSetSetpoints
  | 3 => some c.rlht.opSetPid
  | 4 => some c.rlht.opSetPeriods
  | 5 => some c.rlht.opSetTcSelect
  | 6 => some c.rlht.opSetOpenDuty
  | 7 => some c.bread.opClearWatchdogTrip
  | _ => none

theorem buildFrame_opcode {functionId : Nat} {frame : RawFrame}
    (h : buildFrame c functionId args = .ok frame) :
    functionOpcode c functionId = some frame.opcode := by
  unfold buildFrame at h
  split at h
  · exact Builds.opcode h (.bind fun _ => .bind fun _ => .ret rfl)
  · exact Builds.opcode h (.bind fun _ => .bind fun _ => .bind fun _ =>
      .bind fun _ => .bind fun _ => .bind fun _ => .ret rfl)
  · exact Builds.opcode h (.bind fun _ => .ret rfl)
  · exact Builds.opcode h (.bind fun _ => .ret rfl)
  · exact Builds.opcode h (.bind fun _ => .ret rfl)
  · exact Builds.opcode h (.bind fun _ => .ret rfl)
  · exact Builds.opcode h (.ret rfl)
  · cases h

end Rlht

namespace Dcmt

/-- The opcode of a function, if it is one. -/
def functionOpcode (c : Contracts) : Nat → Option UInt8
  | 1 => some c.dcmt.opSetOpenLoop
  | 2 => some c.dcmt.opSetBrake
  | 3 => some c.dcmt.opSetMode
  | 4 => some c.dcmt.opSetSetpoint
  | 5 | 7 => some c.dcmt.opSetPid
  | 6 => some c.bread.opClearWatchdogTrip
  | _ => none

theorem buildFrame_opcode {functionId : Nat} {frame : RawFrame}
    (h : buildFrame c functionId args = .ok frame) :
    functionOpcode c functionId = some frame.opcode := by
  unfold buildFrame at h
  split at h
  · exact Builds.opcode h (.bind fun _ => .ret rfl)
  · exact Builds.opcode h (.bind fun _ => .bind fun _ => .ret rfl)
  · exact Builds.opcode h (.bind fun _ => .bind fun _ => .ret rfl)
  · exact Builds.opcode h (.bind fun _ => .ret rfl)
  · exact Builds.opcode h (.bind fun _ => .ret rfl)
  · exact Builds.opcode h (.ret rfl)
  · exact Builds.opcode h (.bind fun _ => .ret rfl)
  · cases h

end Dcmt

/-! ## The two watchdog commands -/

def functionOpcode (c : Contracts) : DeviceType → Nat → Option UInt8
  | .rlht => Rlht.functionOpcode c
  | .dcmt => Dcmt.functionOpcode c

theorem buildFrame_opcode {type : DeviceType} {functionId : Nat}
    {frame : RawFrame}
    (h : (adapterFor c type).buildFrame functionId args = .ok frame) :
    functionOpcode c type functionId = some frame.opcode := by
  cases type with
  | rlht => exact Rlht.buildFrame_opcode h
  | dcmt => exact Dcmt.buildFrame_opcode h

/-- No call is built as SET_WATCHDOG. -/
theorem functionOpcode_ne_setWatchdog (hc : c.OpcodesDistinct)
    (type : DeviceType) (functionId : Nat) :
    functionOpcode c type functionId ≠ some c.bread.opSetWatchdog := by
  cases type with
  | rlht =>
      have hr := hc.rlht
      change Rlht.functionOpcode c functionId ≠ _
      unfold Rlht.functionOpcode
      split <;> simp_all
  | dcmt =>
      have hd := hc.dcmt
      change Dcmt.functionOpcode c functionId ≠ _
      unfold Dcmt.functionOpcode
      split <;> simp_all

/-- One function is built as CLEAR_WATCHDOG_TRIP. -/
theorem functionOpcode_eq_clear (hc : c.OpcodesDistinct) {type : DeviceType}
    {functionId : Nat}
    (h : functionOpcode c type functionId
      = some c.bread.opClearWatchdogTrip) :
    functionId = clearFunctionId type := by
  cases type with
  | rlht =>
      have hr := hc.rlht
      change Rlht.functionOpcode c functionId = _ at h
      unfold Rlht.functionOpcode at h
      split at h <;> simp_all [clearFunctionId]
  | dcmt =>
      have hd := hc.dcmt
      change Dcmt.functionOpcode c functionId = _ at h
      unfold Dcmt.functionOpcode at h
      split at h <;> simp_all [clearFunctionId]

end BreadProvider
