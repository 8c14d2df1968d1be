import BreadProvider.Adapter.DeviceAdapter
import BreadProvider.Inventory.Published

/-!
# Provider — the validators and the published specs

`build_frame` checks a call, `build_*_capabilities` publishes what a call may
be. The two are written apart; here they are compared, function by function,
for every flag word.
-/

namespace BreadProvider

open Interaction Inventory

variable {c : Contracts}

/-! ## The shared checks against the specs they stand for -/

variable {args : ValueMap}

theorem uint64Pair_isOk_iff {key₁ key₂ missing range : String} {lo hi : Nat} :
    (∃ pair, uint64Pair args key₁ key₂ missing lo hi range = .ok pair) ↔
      (uint64Arg key₁ lo hi).Admits args ∧
        (uint64Arg key₂ lo hi).Admits args := by
  simp only [uint64Pair_eq_ok, admits_uint64Arg, Prod.exists]
  constructor
  · rintro ⟨a, b, ha, hb, hra, hrb⟩
    exact ⟨⟨a, ha, hra⟩, b, hb, hrb⟩
  · rintro ⟨⟨a, ha, hra⟩, b, hb, hrb⟩
    exact ⟨a, b, ha, hb, hra, hrb⟩

theorem int64Pair_isOk_iff {key₁ key₂ range : String} {lo hi : Int} :
    (∃ pair, int64Pair args key₁ key₂ lo hi range = .ok pair) ↔
      (int64Arg key₁ lo hi).Admits args ∧
        (int64Arg key₂ lo hi).Admits args := by
  simp only [int64Pair_eq_ok, admits_int64Arg, Prod.exists]
  constructor
  · rintro ⟨a, b, ha, hb, hra, hrb⟩
    exact ⟨⟨a, ha, hra⟩, b, hb, hrb⟩
  · rintro ⟨⟨a, ha, hra⟩, b, hb, hrb⟩
    exact ⟨a, b, ha, hb, hra, hrb⟩

/-- The specs of the six gains. -/
def pidArgs (suffix : String) (hi : Nat) : List ArgSpec :=
  ["kp1", "ki1", "kd1", "kp2", "ki2", "kd2"].map fun gain =>
    uint64Arg (gain ++ suffix) 0 hi

theorem pidGains_isOk_iff {suffix missing range : String} {hi : Nat} :
    (∃ g, pidGains args suffix missing hi range = .ok g) ↔
      ∀ spec ∈ pidArgs suffix hi, spec.Admits args := by
  simp only [pidGains_eq_ok, getPidGains_eq_some, pidArgs, List.map_cons,
    List.map_nil, List.forall_mem_cons, admits_uint64Arg, PidGains.Within]
  constructor
  · rintro ⟨g, ⟨h₁, h₂, h₃, h₄, h₅, h₆⟩, w₁, w₂, w₃, w₄, w₅, w₆⟩
    exact ⟨⟨_, h₁, Nat.zero_le _, w₁⟩, ⟨_, h₂, Nat.zero_le _, w₂⟩,
      ⟨_, h₃, Nat.zero_le _, w₃⟩, ⟨_, h₄, Nat.zero_le _, w₄⟩,
      ⟨_, h₅, Nat.zero_le _, w₅⟩, ⟨_, h₆, Nat.zero_le _, w₆⟩, by simp⟩
  · rintro ⟨⟨a, h₁, -, w₁⟩, ⟨b, h₂, -, w₂⟩, ⟨d, h₃, -, w₃⟩, ⟨e, h₄, -, w₄⟩,
      ⟨f, h₅, -, w₅⟩, ⟨g, h₆, -, w₆⟩, -⟩
    exact ⟨⟨a, b, d, e, f, g⟩, ⟨h₁, h₂, h₃, h₄, h₅, h₆⟩, w₁, w₂, w₃, w₄, w₅,
      w₆⟩

theorem bind_ok_isOk {ε α β : Type} {x : Except ε α} {f : α → β} :
    (∃ b, (x >>= fun a => .ok (f a)) = .ok b) ↔ ∃ a, x = .ok a := by
  simp only [Except.bind_eq_ok]
  constructor
  · rintro ⟨_, a, ha, -⟩
    exact ⟨a, ha⟩
  · rintro ⟨a, ha⟩
    exact ⟨f a, a, ha, rfl⟩

theorem admits_pair {functionId : Nat} {name : String} {a b : ArgSpec} :
    (⟨functionId, name, [a, b]⟩ : FunctionSpec).Admits args ↔
      a.Admits args ∧ b.Admits args := by
  simp [FunctionSpec.Admits]

/-! ## RLHT -/

namespace Rlht

theorem setMode_isOk_iff :
    (∃ frame, setMode c args = .ok frame) ↔
      ∃ mode, getArgString args "mode" = some mode ∧
        mode ∈ ["closed_loop", "open_loop"] := by
  simp only [setMode, Except.bind_eq_ok, required_eq_ok, rejectIf_eq_ok,
    List.mem_cons, List.not_mem_nil, or_false]
  constructor
  · rintro ⟨_, mode, hm, -, hok, -⟩
    exact ⟨mode, hm, by tauto⟩
  · rintro ⟨mode, hm, hok⟩
    exact ⟨_, mode, hm, (), by tauto, rfl⟩

theorem setSetpoints_isOk_iff :
    (∃ frame, setSetpoints c args = .ok frame) ↔
      (doubleArg "setpoint1_c" (-32768 / 10) (32767 / 10)).Admits args ∧
        (doubleArg "setpoint2_c" (-32768 / 10) (32767 / 10)).Admits args := by
  simp only [setSetpoints_eq_ok, admits_doubleArg]
  constructor
  · rintro ⟨_, sp1, sp2, h₁, h₂, hr₁, hr₂, -⟩
    exact ⟨⟨sp1, h₁, hr₁⟩, sp2, h₂, hr₂⟩
  · rintro ⟨⟨sp1, h₁, hr₁⟩, sp2, h₂, hr₂⟩
    exact ⟨_, sp1, sp2, h₁, h₂, hr₁, hr₂, rfl⟩

theorem buildFrame_refuses (functionId : Nat) (args : ValueMap) :
    Refuses (buildFrame c functionId args) := by
  unfold buildFrame
  split
  · exact (refuses_required _ _).bind fun _ =>
      (refuses_rejectIf _ _ _).bind fun _ => refuses_ok _
  · have hfinite : ∀ d, Refuses (finite d) := by
      intro d
      cases d with
      | finite q => exact refuses_ok q
      | _ => exact refuses_callError _ _
    exact (refuses_required _ _).bind fun _ => (refuses_required _ _).bind
      fun _ => (hfinite _).bind fun _ => (hfinite _).bind fun _ =>
        (refuses_rejectIf _ _ _).bind fun _ =>
          (refuses_rejectIf _ _ _).bind fun _ => refuses_ok _
  · exact (refuses_pidGains _ _ _ _ _).bind fun _ => refuses_ok _
  · exact (refuses_uint64Pair _ _ _ _ _ _ _).bind fun _ => refuses_ok _
  · exact (refuses_uint64Pair _ _ _ _ _ _ _).bind fun _ => refuses_ok _
  · exact (refuses_uint64Pair _ _ _ _ _ _ _).bind fun _ => refuses_ok _
  · exact refuses_ok _
  · exact refuses_callError _ _

/-- What is built is what is published. -/
theorem buildFrame_isOk_iff {flags : UInt32} {f : FunctionSpec}
    (hf : f ∈ rlhtFunctions c flags) :
    (∃ frame, buildFrame c f.functionId args = .ok frame) ↔ f.Admits args := by
  simp only [rlhtFunctions, List.mem_append, mem_functionIf] at hf
  rcases hf with (((((⟨-, rfl⟩ | ⟨-, rfl⟩) | ⟨-, rfl⟩) | ⟨-, rfl⟩) | ⟨-, rfl⟩)
    | ⟨-, rfl⟩) | ⟨-, rfl⟩
  · simp only [buildFrame, FunctionSpec.Admits, List.forall_mem_singleton,
      admits_stringArg]
    exact setMode_isOk_iff
  · exact setSetpoints_isOk_iff.trans admits_pair.symm
  · exact bind_ok_isOk.trans pidGains_isOk_iff
  · exact (bind_ok_isOk.trans uint64Pair_isOk_iff).trans admits_pair.symm
  · exact (bind_ok_isOk.trans uint64Pair_isOk_iff).trans admits_pair.symm
  · exact (bind_ok_isOk.trans uint64Pair_isOk_iff).trans admits_pair.symm
  · simp [buildFrame, FunctionSpec.Admits]

end Rlht

/-! ## DCMT -/

namespace Dcmt

/-- The modes `build_frame` knows, whatever the flags. -/
def modeNames : List String := ["open_loop", "closed_position", "closed_speed"]

/-- `set_mode` as `build_frame` takes it: any mode it knows. -/
def anyMode (f : FunctionSpec) : FunctionSpec :=
  if f.functionId = 3 then
    { f with args := [{ arg "mode" .string with allowedValues := modeNames }] }
  else f

theorem modeByte_isOk_iff {mode : String} :
    (∃ byte, modeByte c mode = .ok byte) ↔ mode ∈ modeNames := by
  unfold modeByte modeNames
  split_ifs <;> simp_all

theorem setMode_isOk_iff :
    (∃ frame, setMode c args = .ok frame) ↔
      ∃ mode, getArgString args "mode" = some mode ∧ mode ∈ modeNames := by
  simp only [setMode, Except.bind_eq_ok, required_eq_ok, ← @modeByte_isOk_iff c]
  constructor
  · rintro ⟨_, mode, hm, byte, hb, -⟩
    exact ⟨mode, hm, byte, hb⟩
  · rintro ⟨mode, hm, byte, hb⟩
    exact ⟨_, mode, hm, byte, hb, rfl⟩

theorem setBrake_isOk_iff :
    (∃ frame, setBrake c args = .ok frame) ↔
      (arg "motor1_brake" .bool).Admits args ∧
        (arg "motor2_brake" .bool).Admits args := by
  simp only [setBrake, Except.bind_eq_ok, required_eq_ok, admits_boolArg]
  constructor
  · rintro ⟨_, b1, h₁, b2, h₂, -⟩
    exact ⟨⟨b1, h₁⟩, b2, h₂⟩
  · rintro ⟨⟨b1, h₁⟩, b2, h₂⟩
    exact ⟨_, b1, h₁, b2, h₂, rfl⟩

theorem buildFrame_refuses (functionId : Nat) (args : ValueMap) :
    Refuses (buildFrame c functionId args) := by
  have hmode : ∀ mode, Refuses (modeByte c mode) := by
    intro mode
    unfold modeByte
    split_ifs
    · exact refuses_ok _
    · exact refuses_ok _
    · exact refuses_ok _
    · exact refuses_callError _ _
  unfold buildFrame
  split
  · exact (refuses_int64Pair _ _ _ _ _ _).bind fun _ => refuses_ok _
  · exact (refuses_required _ _).bind fun _ =>
      (refuses_required _ _).bind fun _ => refuses_ok _
  · exact (refuses_required _ _).bind fun _ =>
      (hmode _).bind fun _ => refuses_ok _
  · exact (refuses_int64Pair _ _ _ _ _ _).bind fun _ => refuses_ok _
  · exact (refuses_pidGains _ _ _ _ _).bind fun _ => refuses_ok _
  · exact refuses_ok _
  · exact (refuses_pidGains _ _ _ _ _).bind fun _ => refuses_ok _
  · exact refuses_callError _ _

/-- What is built is what is published, the modes of `set_mode` apart. -/
theorem buildFrame_isOk_iff {flags : UInt32} {f : FunctionSpec}
    (hf : f ∈ dcmtFunctions c flags) :
    (∃ frame, buildFrame c f.functionId args = .ok frame) ↔
      (anyMode f).Admits args := by
  simp only [dcmtFunctions, dcmtPidFunction, List.mem_append,
    mem_functionIf] at hf
  rcases hf with (((((⟨-, rfl⟩ | ⟨-, rfl⟩) | ⟨-, rfl⟩) | ⟨-, rfl⟩) | ⟨-, rfl⟩)
    | ⟨-, rfl⟩) | ⟨-, rfl⟩
  · exact (bind_ok_isOk.trans int64Pair_isOk_iff).trans admits_pair.symm
  · exact setBrake_isOk_iff.trans admits_pair.symm
  · simp only [buildFrame, anyMode, FunctionSpec.Admits, if_true,
      List.forall_mem_singleton, modeNames, admits_stringArg]
    exact setMode_isOk_iff
  · exact (bind_ok_isOk.trans int64Pair_isOk_iff).trans admits_pair.symm
  · exact bind_ok_isOk.trans pidGains_isOk_iff
  · exact bind_ok_isOk.trans pidGains_isOk_iff
  · simp [buildFrame, anyMode, FunctionSpec.Admits]

/-- Only `set_mode` is built more freely than it is published. -/
theorem anyMode_of_ne {f : FunctionSpec} (h : f.functionId ≠ 3) :
    anyMode f = f := if_neg h

theorem setMode_args {flags : UInt32} {f : FunctionSpec}
    (hf : f ∈ dcmtFunctions c flags) (hid : f.functionId = 3) :
    f.args = [{ arg "mode" .string with
      allowedValues := dcmtModes c flags }] := by
  simp only [dcmtFunctions, dcmtPidFunction, List.mem_append,
    mem_functionIf] at hf
  rcases hf with (((((⟨-, rfl⟩ | ⟨-, rfl⟩) | ⟨-, rfl⟩) | ⟨-, rfl⟩) | ⟨-, rfl⟩)
    | ⟨-, rfl⟩) | ⟨-, rfl⟩
  · cases hid
  · cases hid
  · rfl
  all_goals cases hid

/-- The mode whose frame passes the encoder gate of a device without
encoders is open loop. -/
theorem setMode_openLoop {device : InventoryDevice} {frame : RawFrame}
    (hencoders : device.encoders = false)
    (hbuild : setMode c args = .ok frame)
    (hgate : needsEncoders c device frame = false) :
    getArgString args "mode" = some "open_loop" := by
  obtain ⟨mode, hmode, byte, hbyte, hret⟩ := by
    simpa only [setMode, Except.bind_eq_ok, required_eq_ok] using hbuild
  obtain rfl := Except.ok.inj hret
  have hopen : byte = c.dcmt.modeOpenLoop := by
    simpa [needsEncoders, hencoders, appendU8] using hgate
  have hd := c.dcmt.modesDistinct
  unfold modeByte at hbyte
  split_ifs at hbyte with h₁ h₂ h₃
  · rw [hmode, h₁]
  · obtain rfl := Except.ok.inj hbyte
    simp [← hopen] at hd
  · obtain rfl := Except.ok.inj hbyte
    simp [← hopen] at hd

end Dcmt

/-! ## A device -/

/-- The gate between building and sending: the one for encoders. -/
def gated (c : Contracts) (device : InventoryDevice) (frame : RawFrame) :
    Bool :=
  match device.type with
  | .rlht => false
  | .dcmt => Dcmt.needsEncoders c device frame

/-- The spec a device holds a call to: the published one, with any mode the
family knows where a DCMT with encoders is told its mode. -/
def checkedSpec (device : InventoryDevice) (f : FunctionSpec) : FunctionSpec :=
  if device.type = .dcmt ∧ device.encoders = true then Dcmt.anyMode f else f

theorem buildFrame_refuses (type : DeviceType) (functionId : Nat)
    (args : ValueMap) :
    Refuses ((adapterFor c type).buildFrame functionId args) := by
  cases type with
  | rlht => exact Rlht.buildFrame_refuses functionId args
  | dcmt => exact Dcmt.buildFrame_refuses functionId args

/-- A frame that is built and passes the gate is a call within the spec. -/
theorem admits_of_buildFrame {device : InventoryDevice}
    (hpub : Published c device) {f : FunctionSpec}
    (hf : f ∈ device.capabilities.functions) {frame : RawFrame}
    (hbuild : (adapterFor c device.type).buildFrame f.functionId args
      = .ok frame)
    (hgate : gated c device frame = false) :
    (checkedSpec device f).Admits args := by
  rw [hpub] at hf
  cases htype : device.type with
  | rlht =>
      rw [htype] at hf hbuild
      simp only [checkedSpec, htype, reduceCtorEq, false_and, if_false]
      exact (Rlht.buildFrame_isOk_iff hf).mp ⟨frame, hbuild⟩
  | dcmt =>
      rw [htype] at hf hbuild
      simp only [gated, htype] at hgate
      have hany := (Dcmt.buildFrame_isOk_iff hf).mp ⟨frame, hbuild⟩
      cases hencoders : device.encoders with
      | true => simpa [checkedSpec, htype, hencoders] using hany
      | false =>
          simp only [checkedSpec, hencoders, Bool.false_eq_true, and_false,
            if_false]
          by_cases hid : f.functionId = 3
          · -- The gate leaves one mode, and one mode is published.
            rw [publishedFlags, if_pos ⟨htype, hencoders⟩] at hf
            rw [hid] at hbuild
            have hmode := Dcmt.setMode_openLoop hencoders hbuild hgate
            rw [FunctionSpec.Admits, Dcmt.setMode_args hf hid,
              dcmtModes_masked, List.forall_mem_singleton, admits_stringArg]
            exact ⟨"open_loop", hmode, List.mem_singleton.mpr rfl⟩
          · rwa [Dcmt.anyMode_of_ne hid] at hany

end BreadProvider
